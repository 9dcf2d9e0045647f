import Mathlib.Data.List.Basic
import Mathlib.Data.List.Nodup
import Vsomeip.Lib.Runs

set_option relaxedAutoImplicit false
set_option autoImplicit false

/-!
# Subscriptions to remote eventgroups

`service_discovery_impl` keeps the subscriptions of its clients in `subscribed_`, a map by service,
instance, eventgroup and client. A new subscription gets a counter of four bits, which its SUBSCRIBE
entry carries and by which a SUBSCRIBE_ACK or NACK finds it again. The counter is the number of
subscriptions that the eventgroup has at this time, and not one that is free: if the first of two
subscriptions is withdrawn, the next one gets the counter of the second. And if the only subscription is
withdrawn before its SUBSCRIBE is answered, the answer finds the next one.

The results of the host (endpoints, `has_identified`, the type of the remote offer) are arguments. Beside
the table stand the SUBSCRIBEs that were sent and are not answered yet.

## Main definitions

* `Vsomeip.Sd.Subscription`, `Vsomeip.Sd.Subscribed` — `subscription` and `subscribed_`.
* `Vsomeip.Sd.Subscribed.subscribe`, `unsubscribe`, `unsubscribeClient`,
  `renew`, `handleEventgroupSubscriptionAck`, `handleEventgroupSubscriptionNack` — the functions on it.
* `Vsomeip.Sd.Subscribing`, `Vsomeip.Sd.SubscribedAction` — the table and the SUBSCRIBEs that are not
  answered, as a state machine.
* `Vsomeip.Sd.Subscribing.Answerable` — the counters tell the subscriptions apart, and every answer
  finds the subscription it is for.

## Main results

* `Vsomeip.Sd.Subscribing.answerable_iff` — this holds along a run exactly if no client subscribes while
  the number of subscriptions is the counter of one of them, or of a SUBSCRIBE of another client that is
  not answered.
-/

namespace Vsomeip.Sd

open Std (TreeMap)

/-! ## Subscriptions -/

/-- What the functions ask of a client endpoint: its remote address, if it is a client endpoint that
has one, whether it is connected, and its local port. -/
structure RemoteEndpoint (Address : Type) where
  remoteAddress : Option Address
  isConnected : Bool
  localPort : UInt16

/-- `subscription_type_e`. -/
inductive SubscriptionType
  | reliableAndUnreliable
  | preferUnreliable
  | preferReliable
  | unreliable
  | reliable

/-- `remote_offer_type_e`. -/
inductive RemoteOfferType
  | reliableUnreliable
  | reliable
  | unreliable
  | unknown
  deriving DecidableEq

/-- `subscription`. -/
structure Subscription (Address : Type) where
  major : UInt8
  ttl : UInt32
  reliable : Option (RemoteEndpoint Address)
  unreliable : Option (RemoteEndpoint Address)
  isAcknowledged : Bool
  tcpConnectionEstablished : Bool
  udpConnectionEstablished : Bool
  subscriptionType : SubscriptionType
  counter : UInt8

/-- A SUBSCRIBE_EVENTGROUP entry with the ports of its endpoint options. -/
structure SubscribeEntry where
  service : UInt16
  inst : UInt16
  eventgroup : UInt16
  counter : UInt8
  majorVersion : UInt8
  ttl : UInt32
  reliablePort : Option UInt16
  unreliablePort : Option UInt16

/-- What the functions ask the host and the network to do. -/
inductive HostCall (Address : Type)
  | serializeAndSend (message : List SubscribeEntry) (address : Address)
  | onSubscribeAck (client service inst eventgroup : UInt16)
  | onSubscribeAckMulticast (service inst : UInt16) (address : Address) (port : UInt16)
  | onSubscribeNack (client service inst eventgroup : UInt16)
  | restart (endpoint : RemoteEndpoint Address)

section

variable {Address : Type}

/-- `insert_subscription`: the entries that are added to the message. -/
def insertSubscription (service inst eventgroup : UInt16) (subscription : Subscription Address)
    (offerType : RemoteOfferType) : List SubscribeEntry :=
  let insertReliable := subscription.reliable.isSome &&
    (offerType = .reliable || (offerType = .reliableUnreliable && subscription.unreliable.isSome))
  let insertUnreliable := subscription.unreliable.isSome &&
    (offerType = .unreliable || (offerType = .reliableUnreliable && subscription.reliable.isSome))
  let port (insert : Bool) (endpoint : Option (RemoteEndpoint Address)) : Option UInt16 :=
    if insert then (endpoint.map (·.localPort)).filter (· ≠ 0) else none
  let reliablePort := port insertReliable subscription.reliable
  let unreliablePort := port insertUnreliable subscription.unreliable
  if reliablePort.isSome || unreliablePort.isSome then
    [{ service, inst, eventgroup, counter := subscription.counter,
       majorVersion := subscription.major, ttl := subscription.ttl, reliablePort, unreliablePort }]
  else []

/-- The address to which a withdrawal is sent, that of the unreliable endpoint if there is one; the
outer `none` stands for a subscription without endpoints. -/
def Subscription.address (subscription : Subscription Address) : Option (Option Address) :=
  match subscription.unreliable with
  | some endpoint => some endpoint.remoteAddress
  | none => subscription.reliable.map (·.remoteAddress)

/-- The message is sent if there is something in it and somewhere to send it. -/
def sendTo (message : List SubscribeEntry) (address : Option Address) : List (HostCall Address) :=
  match address with
  | some address => if message = [] then [] else [.serializeAndSend message address]
  | none => []

end

/-- `VSOMEIP_ROUTING_CLIENT`, on whose behalf subscriptions are made that are not selective. -/
def routingClient : UInt16 := 0

/-! ## The table -/

/-- `subscribed_`. A service or an instance that is not in the map has no eventgroups. -/
abbrev Subscribed (Address : Type) :=
  UInt16 → UInt16 → TreeMap UInt16 (TreeMap UInt16 (Subscription Address))

/-- What `subscribe` asks of the host: the runtime, the endpoints to the service instance, which of
them know the client, and how the service is offered. -/
structure SubscribeEnv (Address : Type) where
  runtime : Bool
  reliable : Option (RemoteEndpoint Address)
  unreliable : Option (RemoteEndpoint Address)
  hasIdentified : Bool → Bool
  offerType : RemoteOfferType

namespace Subscribed

variable {Address : Type}

/-- The subscriptions on an eventgroup, by client. -/
def clients (t : Subscribed Address) (service inst eventgroup : UInt16) :
    TreeMap UInt16 (Subscription Address) :=
  (t service inst).getD eventgroup ∅

/-- Replace the subscriptions on an eventgroup. -/
def setClients (t : Subscribed Address) (service inst eventgroup : UInt16)
    (m : TreeMap UInt16 (Subscription Address)) : Subscribed Address := fun s i =>
  if s = service ∧ i = inst then (t service inst).insert eventgroup m else t s i

/-- `max_parallel_subscriptions`. -/
def maxParallelSubscriptions : UInt8 := 16

/-- The address that `get_subscription_endpoints` finds. -/
def address (env : SubscribeEnv Address) : Option Address :=
  (env.unreliable.bind (·.remoteAddress)).or (env.reliable.bind (·.remoteAddress))

/-- Whether `subscribe` sends the new subscription at once: its endpoints are those of the offer, they
are connected, and they know the client if the subscription is a selective one. -/
def sendsAtOnce (env : SubscribeEnv Address) (client : UInt16) : Bool :=
  (address env).isSome &&
  (client = routingClient ||
    ((env.reliable.isNone || env.hasIdentified true) &&
      (env.unreliable.isNone || env.hasIdentified false))) &&
  match env.offerType, env.reliable, env.unreliable with
  | .unreliable, none, some unreliable => unreliable.isConnected
  | .reliable, some reliable, none => reliable.isConnected
  | .reliableUnreliable, some reliable, some unreliable =>
    reliable.isConnected && unreliable.isConnected
  | _, _, _ => false

/-- `subscribe`. -/
def subscribe (t : Subscribed Address) (env : SubscribeEnv Address)
    (service inst eventgroup : UInt16) (major : UInt8) (ttl : UInt32) (client : UInt16)
    (subscriptionType : SubscriptionType) : Subscribed Address × List (HostCall Address) :=
  let subscriptions := t.clients service inst eventgroup
  if subscriptions.contains client then (t, [])
  else
    let subscribeCount := UInt8.ofNat subscriptions.size
    if subscribeCount ≥ maxParallelSubscriptions then (t, [])
    else if ¬ env.runtime then (t, [])
    else
      let subscription : Subscription Address :=
        { major, ttl, reliable := env.reliable, unreliable := env.unreliable, isAcknowledged := true,
          tcpConnectionEstablished := false, udpConnectionEstablished := false, subscriptionType,
          counter := subscribeCount }
      let message :=
        if sendsAtOnce env client then
          insertSubscription service inst eventgroup subscription env.offerType
        else []
      let subscription := { subscription with isAcknowledged := message.isEmpty }
      (t.setClients service inst eventgroup (subscriptions.insert client subscription),
        sendTo message (address env))

/-- `unsubscribe`. -/
def unsubscribe (t : Subscribed Address) (runtime : Bool) (offerType : RemoteOfferType)
    (service inst eventgroup client : UInt16) : Subscribed Address × List (HostCall Address) :=
  if ¬ runtime then (t, [])
  else
    match (t.clients service inst eventgroup)[client]? with
    | none => (t, [])
    | some subscription =>
      let subscription := { subscription with ttl := 0 }
      let t := t.setClients service inst eventgroup
        ((t.clients service inst eventgroup).erase client)
      match subscription.address with
      | none => (t, [])
      | some address =>
        (t, sendTo (insertSubscription service inst eventgroup subscription offerType) address)

/-- `unsubscribe_all`. -/
def unsubscribeAll (t : Subscribed Address) (service inst : UInt16) : Subscribed Address := fun s i =>
  if s = service ∧ i = inst then
    (t service inst).map fun _ subscriptions => subscriptions.map fun _ subscription =>
      { subscription with isAcknowledged := true, reliable := none, unreliable := none }
  else t s i

/-- The loop of `unsubscribe_client` over the eventgroups of an instance, with the message that is
built and the address it will be sent to. The function returns without sending anything when it
comes to a subscription without endpoints before it knows the address. -/
def unsubscribeClientLoop (offerType : RemoteOfferType) (service inst client : UInt16) :
    List (UInt16 × TreeMap UInt16 (Subscription Address)) → Subscribed Address →
    List SubscribeEntry → Option Address → Subscribed Address × List (HostCall Address)
  | [], t, message, address => (t, sendTo message address)
  | (eventgroup, subscriptions) :: rest, t, message, address =>
    match subscriptions[client]? with
    | none => unsubscribeClientLoop offerType service inst client rest t message address
    | some subscription =>
      let subscription := { subscription with ttl := 0 }
      let t := t.setClients service inst eventgroup (subscriptions.erase client)
      match address.map some <|> subscription.address with
      | none => (t, [])
      | some address =>
        unsubscribeClientLoop offerType service inst client rest t
          (message ++ insertSubscription service inst eventgroup subscription offerType) address

/-- `unsubscribe_client`. -/
def unsubscribeClient (t : Subscribed Address) (runtime : Bool) (offerType : RemoteOfferType)
    (service inst client : UInt16) : Subscribed Address × List (HostCall Address) :=
  if ¬ runtime then (t, [])
  else unsubscribeClientLoop offerType service inst client (t service inst).toList t [] none

/-- What `on_endpoint_connected`, `send_subscriptions` and an offer of the service do with a subscription
whose SUBSCRIBE they send: it gets the endpoints that the host has now, and is not acknowledged. -/
def renew (t : Subscribed Address) (offerType : RemoteOfferType)
    (service inst eventgroup client : UInt16) (reliable unreliable : Option (RemoteEndpoint Address))
    (tcpConnectionEstablished udpConnectionEstablished : Bool) (address : Option Address) :
    Subscribed Address × List (HostCall Address) :=
  match (t.clients service inst eventgroup)[client]? with
  | none => (t, [])
  | some subscription =>
    let subscription :=
      { subscription with
        reliable, unreliable, isAcknowledged := false, tcpConnectionEstablished,
        udpConnectionEstablished }
    (t.setClients service inst eventgroup
        ((t.clients service inst eventgroup).insert client subscription),
      sendTo (insertSubscription service inst eventgroup subscription offerType) address)

/-- `handle_eventgroup_subscription_ack`. Every subscription with the counter is acknowledged. -/
def handleEventgroupSubscriptionAck (t : Subscribed Address) (isMulticast : Address → Bool)
    (service inst eventgroup : UInt16) (counter : UInt8) (address : Address) (port : UInt16) :
    Subscribed Address × List (HostCall Address) :=
  let subscriptions := t.clients service inst eventgroup
  (t.setClients service inst eventgroup (subscriptions.map fun _ subscription =>
      if subscription.counter = counter then { subscription with isAcknowledged := true }
      else subscription),
    subscriptions.toList.flatMap fun (client, subscription) =>
      (if subscription.counter = counter then [.onSubscribeAck client service inst eventgroup]
        else []) ++
      if isMulticast address then [.onSubscribeAckMulticast service inst address port] else [])

/-- `handle_eventgroup_subscription_nack`. The first subscription with the counter is rejected, and
removed if it is a selective one. -/
def handleEventgroupSubscriptionNack (t : Subscribed Address) (service inst eventgroup : UInt16)
    (counter : UInt8) : Subscribed Address × List (HostCall Address) :=
  let subscriptions := t.clients service inst eventgroup
  let found := subscriptions.toList.find? fun (_, subscription) => subscription.counter == counter
  let nackedClient := (found.map Prod.fst).getD 0
  let restarts := subscriptions.toList.flatMap fun (client, subscription) =>
    if ¬ subscription.isAcknowledged ∧ client = routingClient then
      (subscription.reliable.map HostCall.restart).toList
    else []
  (if nackedClient ≠ routingClient then
      t.setClients service inst eventgroup (subscriptions.erase nackedClient)
    else t,
    (found.map fun (client, _) => .onSubscribeNack client service inst eventgroup).toList ++ restarts)

end Subscribed

/-- A SUBSCRIBE that was sent for a client. -/
structure SentSubscribe where
  client : UInt16
  service : UInt16
  inst : UInt16
  eventgroup : UInt16
  counter : UInt8
  deriving DecidableEq

/-- The SUBSCRIBE entries of a call; those without time to live withdraw a subscription. -/
def HostCall.subscribes {Address : Type} : HostCall Address → List SubscribeEntry
  | .serializeAndSend message _ => message.filter (·.ttl ≠ 0)
  | _ => []

/-- The SUBSCRIBEs that are sent for a client. -/
def sentSubscribes {Address : Type} (client : UInt16) (calls : List (HostCall Address)) :
    List SentSubscribe :=
  (calls.flatMap HostCall.subscribes).map fun entry =>
    ⟨client, entry.service, entry.inst, entry.eventgroup, entry.counter⟩

/-- The calls of clients and of the host, and the answers of remote hosts with the SUBSCRIBE that they
answer, whose counter they carry. -/
inductive SubscribedAction (Address : Type)
  | subscribe (env : SubscribeEnv Address) (service inst eventgroup : UInt16) (major : UInt8)
    (ttl : UInt32) (client : UInt16) (subscriptionType : SubscriptionType)
  | renew (offerType : RemoteOfferType) (service inst eventgroup client : UInt16)
    (reliable unreliable : Option (RemoteEndpoint Address))
    (tcpConnectionEstablished udpConnectionEstablished : Bool) (address : Option Address)
  | unsubscribe (runtime : Bool) (offerType : RemoteOfferType)
    (service inst eventgroup client : UInt16)
  | unsubscribeAll (service inst : UInt16)
  | unsubscribeClient (runtime : Bool) (offerType : RemoteOfferType) (service inst client : UInt16)
  | ack (sent : SentSubscribe) (address : Address) (port : UInt16)
  | nack (sent : SentSubscribe)

/-- `subscribed_`, and the SUBSCRIBEs that were sent and are not answered. -/
structure Subscribing (Address : Type) where
  subscribed : Subscribed Address
  unanswered : List SentSubscribe

/-- The client whose subscription is acknowledged by a call of the host. -/
def HostCall.acked {Address : Type} : HostCall Address → Option UInt16
  | .onSubscribeAck client _ _ _ => some client
  | _ => none

/-- The client whose subscription is rejected by a call of the host. -/
def HostCall.nacked {Address : Type} : HostCall Address → Option UInt16
  | .onSubscribeNack client _ _ _ => some client
  | _ => none

namespace Subscribed

variable {Address : Type}

/-- A table without subscriptions. -/
def init : Subscribed Address := fun _ _ => ∅

/-- The client of a SUBSCRIBE is subscribed, with the counter that the SUBSCRIBE carries. -/
def isHeld (t : Subscribed Address) (x : SentSubscribe) : Bool :=
  (t.clients x.service x.inst x.eventgroup)[x.client]?.any (·.counter == x.counter)

/-- The answers to a SUBSCRIBE are told to its client, if it still has the subscription, and to no other
one, and the other subscriptions on the eventgroup stay as they are. -/
structure Matches (t : Subscribed Address) (isMulticast : Address → Bool) (x : SentSubscribe) :
    Prop where
  ack : ∀ address port,
    (t.handleEventgroupSubscriptionAck isMulticast x.service x.inst x.eventgroup x.counter address
      port).2.filterMap HostCall.acked = if t.isHeld x then [x.client] else []
  nack : (t.handleEventgroupSubscriptionNack x.service x.inst x.eventgroup
    x.counter).2.filterMap HostCall.nacked = if t.isHeld x then [x.client] else []
  others_ack : ∀ address port {c : UInt16}, c ≠ x.client →
    ((t.handleEventgroupSubscriptionAck isMulticast x.service x.inst x.eventgroup x.counter address
      port).1.clients x.service x.inst x.eventgroup)[c]? =
    (t.clients x.service x.inst x.eventgroup)[c]?
  others_nack : ∀ {c : UInt16}, c ≠ x.client →
    ((t.handleEventgroupSubscriptionNack x.service x.inst x.eventgroup
      x.counter).1.clients x.service x.inst x.eventgroup)[c]? =
    (t.clients x.service x.inst x.eventgroup)[c]?

/-- `subscribe` makes a new subscription: the client has none on the eventgroup, there are fewer than
16, and the runtime is alive. -/
def Subscribes (t : Subscribed Address) (env : SubscribeEnv Address)
    (service inst eventgroup client : UInt16) : Prop :=
  client ∉ t.clients service inst eventgroup ∧ (t.clients service inst eventgroup).size < 16 ∧
    env.runtime

end Subscribed

namespace Subscribing

variable {Address : Type}

/-- No subscriptions, and nothing to answer. -/
def init : Subscribing Address := ⟨.init, []⟩

/-- One call, or one answer. -/
def step (isMulticast : Address → Bool) (s : Subscribing Address) :
    SubscribedAction Address → Subscribing Address
  | .subscribe env service inst eventgroup major ttl client subscriptionType =>
    let x := s.subscribed.subscribe env service inst eventgroup major ttl client subscriptionType
    ⟨x.1, s.unanswered ++ sentSubscribes client x.2⟩
  | .renew offerType service inst eventgroup client reliable unreliable tcp udp address =>
    let x := s.subscribed.renew offerType service inst eventgroup client reliable unreliable tcp udp
      address
    ⟨x.1, s.unanswered ++ sentSubscribes client x.2⟩
  | .unsubscribe runtime offerType service inst eventgroup client =>
    { s with
      subscribed := (s.subscribed.unsubscribe runtime offerType service inst eventgroup client).1 }
  | .unsubscribeAll service inst => { s with subscribed := s.subscribed.unsubscribeAll service inst }
  | .unsubscribeClient runtime offerType service inst client =>
    { s with subscribed := (s.subscribed.unsubscribeClient runtime offerType service inst client).1 }
  | .ack x address port =>
    ⟨(s.subscribed.handleEventgroupSubscriptionAck isMulticast x.service x.inst x.eventgroup x.counter
      address port).1, s.unanswered.erase x⟩
  | .nack x =>
    ⟨(s.subscribed.handleEventgroupSubscriptionNack x.service x.inst x.eventgroup x.counter).1,
      s.unanswered.erase x⟩

/-- The counters of the subscriptions on an eventgroup fit into four bits and are distinct, and the
answers to a SUBSCRIBE of one of them, and to every SUBSCRIBE that is not answered yet, are told to the
client of the SUBSCRIBE and to no other one. -/
structure Answerable (isMulticast : Address → Bool) (s : Subscribing Address) : Prop where
  counter_lt : ∀ {service inst eventgroup client : UInt16} {subscription : Subscription Address},
    (s.subscribed.clients service inst eventgroup)[client]? = some subscription →
    subscription.counter < 16
  distinct : ∀ {service inst eventgroup c d : UInt16} {u v : Subscription Address},
    (s.subscribed.clients service inst eventgroup)[c]? = some u →
    (s.subscribed.clients service inst eventgroup)[d]? = some v → u.counter = v.counter → c = d
  held : ∀ {x : SentSubscribe}, s.subscribed.isHeld x → s.subscribed.Matches isMulticast x
  unanswered : ∀ {x : SentSubscribe}, x ∈ s.unanswered → s.subscribed.Matches isMulticast x

end Subscribing

/-- A new subscription is made while the number of subscriptions, which becomes its counter, is the
counter of one of them, or of a SUBSCRIBE of another client that is not answered. -/
def SubscribedAction.Collides {Address : Type} (s : Subscribing Address) :
    SubscribedAction Address → Prop
  | .subscribe env service inst eventgroup _ _ client _ =>
    s.subscribed.Subscribes env service inst eventgroup client ∧
      ((∃ (c : UInt16) (u : Subscription Address),
        (s.subscribed.clients service inst eventgroup)[c]? = some u ∧
          u.counter.toNat = (s.subscribed.clients service inst eventgroup).size) ∨
      ∃ c counter, c ≠ client ∧ ⟨c, service, inst, eventgroup, counter⟩ ∈ s.unanswered ∧
        counter.toNat = (s.subscribed.clients service inst eventgroup).size)
  | _ => False

/-! ## One eventgroup -/

section Clients

variable {Address : Type}

/-- The subscriptions on an eventgroup have distinct counters of four bits. -/
structure Numbered (m : TreeMap UInt16 (Subscription Address)) : Prop where
  size_le : m.size ≤ 16
  counter_lt : ∀ {c : UInt16} {u : Subscription Address}, m[c]? = some u → u.counter < 16
  distinct : ∀ {c d : UInt16} {u v : Subscription Address}, m[c]? = some u → m[d]? = some v →
    u.counter = v.counter → c = d

/-- Subscriptions are removed or change in something else than their counters. -/
structure Shrinks (m m' : TreeMap UInt16 (Subscription Address)) : Prop where
  size_le : m'.size ≤ m.size
  exists_of_getElem? : ∀ {c : UInt16} {u : Subscription Address}, m'[c]? = some u →
    ∃ v, m[c]? = some v ∧ v.counter = u.counter

variable {m m' m'' : TreeMap UInt16 (Subscription Address)}

/-- A table shrinks to itself. -/
lemma Shrinks.refl (m : TreeMap UInt16 (Subscription Address)) : Shrinks m m :=
  ⟨Nat.le_refl _, fun h => ⟨_, h, rfl⟩⟩

/-- Shrinking is transitive. -/
lemma Shrinks.trans (h : Shrinks m m') (h' : Shrinks m' m'') : Shrinks m m'' where
  size_le := Nat.le_trans h'.size_le h.size_le
  exists_of_getElem? := fun hc => by
    obtain ⟨v, hv, hvu⟩ := h'.exists_of_getElem? hc
    obtain ⟨w, hw, hwv⟩ := h.exists_of_getElem? hv
    exact ⟨w, hw, hwv.trans hvu⟩

/-- Erasing a client is shrinking. -/
lemma shrinks_erase (m : TreeMap UInt16 (Subscription Address)) (client : UInt16) :
    Shrinks m (m.erase client) where
  size_le := TreeMap.size_erase_le
  exists_of_getElem? := fun {c u} h => by
    rw [TreeMap.getElem?_erase] at h
    split_ifs at h
    exact ⟨u, h, rfl⟩

/-- A change that keeps the counters is shrinking. -/
lemma shrinks_map {f : UInt16 → Subscription Address → Subscription Address}
    (hf : ∀ c u, (f c u).counter = u.counter) : Shrinks m (m.map f) where
  size_le := Nat.le_of_eq TreeMap.size_map
  exists_of_getElem? := fun {c u} h => by
    rw [TreeMap.getElem?_map] at h
    obtain ⟨v, hv, rfl⟩ := Option.map_eq_some_iff.mp h
    exact ⟨v, hv, (hf c v).symm⟩

/-- A subscription is replaced by one with the same counter. -/
lemma shrinks_insert {client : UInt16} {u v : Subscription Address} (hu : m[client]? = some u)
    (hcounter : v.counter = u.counter) : Shrinks m (m.insert client v) where
  size_le := by
    have hmem : m.contains client = true :=
      TreeMap.contains_iff_mem.mpr (TreeMap.mem_iff_isSome_getElem?.mpr (by rw [hu]; rfl))
    exact Nat.le_of_eq (by rw [TreeMap.size_insert, if_pos hmem])
  exists_of_getElem? := fun {c w} h => by
    rw [TreeMap.getElem?_insert] at h
    split_ifs at h with hc
    · obtain rfl := Option.some.inj h
      obtain rfl := Std.LawfulEqOrd.eq_of_compare hc
      exact ⟨u, hu, hcounter.symm⟩
    · exact ⟨w, h, rfl⟩

/-- Shrinking keeps the counters of different clients different. -/
lemma Shrinks.numbered (h : Shrinks m m') (hm : Numbered m) : Numbered m' where
  size_le := Nat.le_trans h.size_le hm.size_le
  counter_lt := fun hc => by
    obtain ⟨v, hv, hvu⟩ := h.exists_of_getElem? hc
    rw [← hvu]
    exact hm.counter_lt hv
  distinct := fun hc hd heq => by
    obtain ⟨u', hu, huc⟩ := h.exists_of_getElem? hc
    obtain ⟨v', hv, hvd⟩ := h.exists_of_getElem? hd
    exact hm.distinct hu hv (by rw [huc, hvd, heq])

/-- A new subscription with a counter that none has keeps the counters distinct. -/
lemma Numbered.insert (h : Numbered m) {client : UInt16} {u : Subscription Address}
    (hnew : client ∉ m) (hsize : m.size < 16) (hcounter : u.counter.toNat = m.size)
    (hfree : ∀ {c : UInt16} {v : Subscription Address}, m[c]? = some v →
      v.counter.toNat ≠ m.size) :
    Numbered (m.insert client u) where
  size_le := by
    rw [TreeMap.size_insert, if_neg (mt TreeMap.contains_iff_mem.mp hnew)]
    omega
  counter_lt := fun {c v} hc => by
    rw [TreeMap.getElem?_insert] at hc
    split_ifs at hc
    · obtain rfl := Option.some.inj hc
      rw [UInt8.lt_iff_toNat_lt, hcounter]
      exact hsize
    · exact h.counter_lt hc
  distinct := fun {c d v w} hc hd heq => by
    rw [TreeMap.getElem?_insert] at hc hd
    split_ifs at hc hd with hcc hdd
    · rw [← Std.LawfulEqOrd.eq_of_compare hcc, ← Std.LawfulEqOrd.eq_of_compare hdd]
    · obtain rfl := Option.some.inj hc
      exact absurd (by rw [← heq, hcounter]) (hfree hd)
    · obtain rfl := Option.some.inj hd
      exact absurd (by rw [heq, hcounter]) (hfree hc)
    · exact h.distinct hc hd heq

/-- A predicate that holds of one subscription only finds this one. -/
lemma filter_toList_eq {p : UInt16 × Subscription Address → Bool} {c : UInt16}
    {u : Subscription Address} (hc : m[c]? = some u) (hp : p (c, u) = true)
    (honly : ∀ {d v}, m[d]? = some v → p (d, v) = true → d = c) : m.toList.filter p = [(c, u)] := by
  have hmem : (c, u) ∈ m.toList.filter p :=
    List.mem_filter.mpr ⟨TreeMap.mem_toList_iff_getElem?_eq_some.mpr hc, hp⟩
  have hnodup : (m.toList.filter p).Nodup := by
    refine List.Pairwise.filter p (TreeMap.distinct_keys_toList.imp fun {x y} hne heq => hne ?_)
    rw [heq]
    exact Std.ReflOrd.compare_self
  have hall : ∀ x ∈ m.toList.filter p, x = (c, u) := by
    rintro ⟨d, v⟩ hx
    obtain ⟨hd, hpd⟩ := List.mem_filter.mp hx
    rw [TreeMap.mem_toList_iff_getElem?_eq_some] at hd
    obtain rfl := honly hd hpd
    rw [hc] at hd
    rw [Option.some.inj hd]
  obtain ⟨n, hn⟩ : ∃ n, m.toList.filter p = List.replicate n (c, u) :=
    ⟨_, List.eq_replicate_of_mem hall⟩
  rw [hn] at hmem hnodup ⊢
  rw [List.nodup_replicate] at hnodup
  obtain rfl : n = 1 := by
    have hpos := (List.mem_replicate.mp hmem).1
    omega
  rfl

end Clients

/-! ## The table -/

namespace Subscribed

variable {Address : Type} {t : Subscribed Address}

/-- The clients of an eventgroup after one table is replaced. -/
lemma clients_setClients (service inst eventgroup : UInt16)
    (m : TreeMap UInt16 (Subscription Address)) (s i g : UInt16) :
    (t.setClients service inst eventgroup m).clients s i g =
      if s = service ∧ i = inst ∧ g = eventgroup then m else t.clients s i g := by
  simp only [clients, setClients]
  by_cases hsi : s = service ∧ i = inst
  · obtain ⟨rfl, rfl⟩ := hsi
    simp only [true_and, if_true, TreeMap.getD_insert, Std.LawfulEqOrd.compare_eq_iff_eq]
    by_cases hg : eventgroup = g
    · rw [if_pos hg, if_pos hg.symm]
    · rw [if_neg hg, if_neg (Ne.symm hg)]
  · rw [if_neg hsi, if_neg fun h => hsi ⟨h.1, h.2.1⟩]

/-- Replacing the subscriptions on an eventgroup by fewer ones. -/
lemma shrinks_setClients {service inst eventgroup : UInt16}
    {m : TreeMap UInt16 (Subscription Address)} (h : Shrinks (t.clients service inst eventgroup) m)
    (s i g : UInt16) :
    Shrinks (t.clients s i g) ((t.setClients service inst eventgroup m).clients s i g) := by
  rw [clients_setClients]
  split_ifs with hkey
  · obtain ⟨rfl, rfl, rfl⟩ := hkey
    exact h
  · exact Shrinks.refl _

/-- `unsubscribe` adds no client. -/
lemma shrinks_unsubscribe (runtime : Bool) (offerType : RemoteOfferType)
    (service inst eventgroup client s i g : UInt16) :
    Shrinks (t.clients s i g)
      ((t.unsubscribe runtime offerType service inst eventgroup client).1.clients s i g) := by
  simp only [unsubscribe]
  split_ifs with hruntime
  · split
    · exact Shrinks.refl _
    · split <;> exact shrinks_setClients (shrinks_erase _ client) s i g
  · exact Shrinks.refl _

/-- `unsubscribe_all` adds no client. -/
lemma shrinks_unsubscribeAll (service inst s i g : UInt16) :
    Shrinks (t.clients s i g) ((t.unsubscribeAll service inst).clients s i g) := by
  simp only [clients, unsubscribeAll]
  split_ifs with hkey
  · obtain ⟨rfl, rfl⟩ := hkey
    rw [TreeMap.getD_eq_getD_getElem?, TreeMap.getD_eq_getD_getElem?, TreeMap.getElem?_map]
    cases (t s i)[g]? with
    | none => exact Shrinks.refl _
    | some m => exact shrinks_map fun _ _ => rfl
  · exact Shrinks.refl _

/-- The loop of `unsubscribe_client` only removes subscriptions.

**Proof sketch.** Induction on the eventgroups that are left. Those that come later have not been
changed yet, because each of them comes once. -/
lemma shrinks_unsubscribeClientLoop (offerType : RemoteOfferType) (service inst client : UInt16) :
    ∀ (l : List (UInt16 × TreeMap UInt16 (Subscription Address))) (t : Subscribed Address)
      (message : List SubscribeEntry) (address : Option Address),
    (∀ g m, (g, m) ∈ l → t.clients service inst g = m) → (l.map Prod.fst).Nodup → ∀ s i g,
    Shrinks (t.clients s i g)
      ((unsubscribeClientLoop offerType service inst client l t message address).1.clients s i g)
  | [], t, _, _, _, _, s, i, g => Shrinks.refl (t.clients s i g)
  | (eventgroup, m) :: rest, t, message, address, hl, hnodup, s, i, g => by
    rw [List.map_cons, List.nodup_cons] at hnodup
    have hm : t.clients service inst eventgroup = m := hl eventgroup m List.mem_cons_self
    rw [unsubscribeClientLoop]
    split
    · exact shrinks_unsubscribeClientLoop offerType service inst client rest t message address
        (fun g m h => hl g m (List.mem_cons_of_mem _ h)) hnodup.2 s i g
    · have herase : Shrinks (t.clients service inst eventgroup) (m.erase client) := by
        rw [hm]
        exact shrinks_erase m client
      have hfirst := shrinks_setClients herase s i g
      dsimp only
      split
      · exact hfirst
      · refine hfirst.trans (shrinks_unsubscribeClientLoop offerType service inst client rest _ _ _
          (fun g' m' h => ?_) hnodup.2 s i g)
        rw [clients_setClients, if_neg]
        · exact hl g' m' (List.mem_cons_of_mem _ h)
        · rintro ⟨-, -, rfl⟩
          exact hnodup.1 (List.mem_map.mpr ⟨(g', m'), h, rfl⟩)

/-- `unsubscribe_client` adds no client. -/
lemma shrinks_unsubscribeClient (runtime : Bool) (offerType : RemoteOfferType)
    (service inst client s i g : UInt16) :
    Shrinks (t.clients s i g)
      ((t.unsubscribeClient runtime offerType service inst client).1.clients s i g) := by
  simp only [unsubscribeClient]
  split_ifs with hruntime
  · refine shrinks_unsubscribeClientLoop offerType service inst client _ t [] none ?_ ?_ s i g
    · intro g m h
      rw [TreeMap.mem_toList_iff_getElem?_eq_some] at h
      rw [clients, TreeMap.getD_eq_getD_getElem?, h, Option.getD_some]
    · rw [TreeMap.map_fst_toList_eq_keys]
      refine TreeMap.distinct_keys.imp fun {x y} hne heq => hne ?_
      rw [heq]
      exact Std.ReflOrd.compare_self
  · exact Shrinks.refl _

/-- A subscription that is renewed keeps its counter. -/
lemma shrinks_renew (offerType : RemoteOfferType) (service inst eventgroup client : UInt16)
    (reliable unreliable : Option (RemoteEndpoint Address)) (tcp udp : Bool)
    (address : Option Address) (s i g : UInt16) :
    Shrinks (t.clients s i g) ((t.renew offerType service inst eventgroup client reliable unreliable
      tcp udp address).1.clients s i g) := by
  simp only [renew]
  split
  · exact Shrinks.refl _
  next subscription hu => exact shrinks_setClients (shrinks_insert hu (by rfl)) s i g

/-- An acknowledgement adds no client. -/
lemma shrinks_ack (isMulticast : Address → Bool) (service inst eventgroup : UInt16)
    (counter : UInt8) (address : Address) (port s i g : UInt16) :
    Shrinks (t.clients s i g) ((t.handleEventgroupSubscriptionAck isMulticast service inst eventgroup
      counter address port).1.clients s i g) := by
  refine shrinks_setClients (shrinks_map fun c u => ?_) s i g
  split_ifs <;> rfl

/-- A rejection adds no client. -/
lemma shrinks_nack (service inst eventgroup : UInt16) (counter : UInt8) (s i g : UInt16) :
    Shrinks (t.clients s i g)
      ((t.handleEventgroupSubscriptionNack service inst eventgroup counter).1.clients s i g) := by
  simp only [handleEventgroupSubscriptionNack]
  split_ifs
  · exact shrinks_setClients (shrinks_erase _ _) s i g
  · exact Shrinks.refl _

section Subscribe

variable {env : SubscribeEnv Address} {service inst eventgroup client : UInt16}
variable (major : UInt8) (ttl : UInt32) (subscriptionType : SubscriptionType)

/-- The check for the number of parallel subscriptions, as the code makes it with 8 bits. -/
lemma ofNat_size_ge_iff (hsize : (t.clients service inst eventgroup).size ≤ 16) :
    UInt8.ofNat (t.clients service inst eventgroup).size ≥ maxParallelSubscriptions ↔
      ¬ (t.clients service inst eventgroup).size < 16 := by
  rw [ge_iff_le, UInt8.le_iff_toNat_le, UInt8.toNat_ofNat', maxParallelSubscriptions]
  simp only [UInt8.reduceToNat]
  omega

/-- A `subscribe` that does not subscribe changes nothing. -/
lemma subscribe_of_not_subscribes (hsize : (t.clients service inst eventgroup).size ≤ 16)
    (h : ¬ t.Subscribes env service inst eventgroup client) :
    (t.subscribe env service inst eventgroup major ttl client subscriptionType).1 = t := by
  simp only [subscribe, ofNat_size_ge_iff hsize, TreeMap.contains_iff_mem]
  by_cases hmem : client ∈ t.clients service inst eventgroup
  · rw [if_pos hmem]
  by_cases hfull : (t.clients service inst eventgroup).size < 16
  · have hruntime : ¬ env.runtime := fun hruntime => h ⟨hmem, hfull, hruntime⟩
    rw [if_neg hmem, if_neg (not_not.mpr hfull), if_pos hruntime]
  · rw [if_neg hmem, if_pos hfull]

/-- The counter of a new subscription is the number of those that are there. -/
lemma exists_subscribe_eq (h : t.Subscribes env service inst eventgroup client) :
    ∃ u : Subscription Address, u.counter.toNat = (t.clients service inst eventgroup).size ∧
      (t.subscribe env service inst eventgroup major ttl client subscriptionType).1 =
        t.setClients service inst eventgroup
          ((t.clients service inst eventgroup).insert client u) := by
  obtain ⟨hmem, hfull, hruntime⟩ := h
  simp only [subscribe, ofNat_size_ge_iff (Nat.le_of_lt hfull), TreeMap.contains_iff_mem]
  rw [if_neg hmem, if_neg (not_not.mpr hfull), if_neg (not_not.mpr hruntime)]
  refine ⟨_, ?_, rfl⟩
  rw [UInt8.toNat_ofNat']
  omega

end Subscribe

/-- All eventgroups are numbered. -/
def AllNumbered (t : Subscribed Address) : Prop := ∀ s i g, Numbered (t.clients s i g)

/-- At the start there is no client. -/
lemma allNumbered_init : AllNumbered (init : Subscribed Address) := by
  intro s i g
  have hempty : (init : Subscribed Address).clients s i g = ∅ := rfl
  rw [hempty]
  exact ⟨by simp, fun h => by simp at h, fun h => by simp at h⟩

/-- The clients that are told about an acknowledgement. -/
lemma acked_handleEventgroupSubscriptionAck (isMulticast : Address → Bool)
    (service inst eventgroup : UInt16) (counter : UInt8) (address : Address) (port : UInt16) :
    (t.handleEventgroupSubscriptionAck isMulticast service inst eventgroup counter address
      port).2.filterMap HostCall.acked =
    ((t.clients service inst eventgroup).toList.filter (·.2.counter == counter)).map Prod.fst := by
  simp only [handleEventgroupSubscriptionAck]
  induction (t.clients service inst eventgroup).toList with
  | nil => rfl
  | cons x l ih =>
    rw [List.flatMap_cons, List.filterMap_append, ih]
    by_cases hx : x.2.counter = counter <;> by_cases hm : isMulticast address = true <;>
      simp [hx, hm, HostCall.acked]

/-- The client that is told about a rejection. -/
lemma nacked_handleEventgroupSubscriptionNack (service inst eventgroup : UInt16) (counter : UInt8) :
    (t.handleEventgroupSubscriptionNack service inst eventgroup counter).2.filterMap
      HostCall.nacked =
    (((t.clients service inst eventgroup).toList.find? (·.2.counter == counter)).map
      Prod.fst).toList := by
  have hrestarts : ∀ l : List (UInt16 × Subscription Address),
      (l.flatMap fun x => if ¬ x.2.isAcknowledged ∧ x.1 = routingClient then
        (x.2.reliable.map HostCall.restart).toList else []).filterMap HostCall.nacked = [] := by
    intro l
    rw [List.filterMap_eq_nil_iff]
    intro call hcall
    obtain ⟨x, -, hx⟩ := List.mem_flatMap.mp hcall
    split_ifs at hx
    · cases hr : x.2.reliable with
      | none => simp [hr] at hx
      | some e =>
        simp only [hr, Option.map_some, Option.toList_some, List.mem_singleton] at hx
        rw [hx]
        rfl
    · cases hx
  simp only [handleEventgroupSubscriptionNack, List.filterMap_append]
  rw [hrestarts, List.append_nil]
  cases (t.clients service inst eventgroup).toList.find? (·.2.counter == counter) <;> rfl

/-- The client of a SUBSCRIBE has a subscription with its counter. -/
lemma isHeld_iff {x : SentSubscribe} : t.isHeld x ↔
    ∃ u, (t.clients x.service x.inst x.eventgroup)[x.client]? = some u ∧ u.counter = x.counter := by
  simp only [isHeld, Option.any_eq_true, beq_iff_eq]

section Matches

variable {isMulticast : Address → Bool} {x : SentSubscribe}

/-- The subscriptions with the counter of a SUBSCRIBE. -/
lemma filter_counter_eq
    (honly : ∀ {d v}, (t.clients x.service x.inst x.eventgroup)[d]? = some v →
      v.counter = x.counter → d = x.client) :
    ((t.clients x.service x.inst x.eventgroup).toList.filter (·.2.counter == x.counter)).map
      Prod.fst = if t.isHeld x then [x.client] else [] := by
  by_cases hheld : t.isHeld x
  · obtain ⟨u, hu, hcounter⟩ := isHeld_iff.mp hheld
    rw [if_pos hheld, filter_toList_eq hu (by simpa using hcounter)
      fun hd heq => honly hd (by simpa using heq)]
    rfl
  · rw [if_neg hheld, List.map_eq_nil_iff, List.filter_eq_nil_iff]
    rintro ⟨d, v⟩ hmem hv
    rw [TreeMap.mem_toList_iff_getElem?_eq_some] at hmem
    have hcounter : v.counter = x.counter := by simpa using hv
    obtain rfl := honly hmem hcounter
    exact hheld (isHeld_iff.mpr ⟨v, hmem, hcounter⟩)

/-- An answer matches the SUBSCRIBE that it is for if no other client has the counter. -/
lemma matches_of_forall
    (honly : ∀ {d v}, (t.clients x.service x.inst x.eventgroup)[d]? = some v →
      v.counter = x.counter → d = x.client) : t.Matches isMulticast x := by
  have hfilter := filter_counter_eq honly
  have hfound : (((t.clients x.service x.inst x.eventgroup).toList.find?
      (·.2.counter == x.counter)).map Prod.fst) = if t.isHeld x then some x.client else none := by
    rw [← List.head?_filter, ← List.head?_map, hfilter]
    split_ifs <;> rfl
  refine ⟨fun address port => ?_, ?_, fun address port c hc => ?_, fun {c} hc => ?_⟩
  · rw [acked_handleEventgroupSubscriptionAck, hfilter]
  · rw [nacked_handleEventgroupSubscriptionNack, hfound]
    split_ifs <;> rfl
  · simp only [handleEventgroupSubscriptionAck, clients_setClients, and_self, if_true,
      TreeMap.getElem?_map]
    cases hv : (t.clients x.service x.inst x.eventgroup)[c]? with
    | none => rfl
    | some v => rw [Option.map_some, if_neg fun hcounter => hc (honly hv hcounter)]
  · simp only [handleEventgroupSubscriptionNack, hfound]
    by_cases hheld : t.isHeld x
    · rw [if_pos hheld, Option.getD_some]
      split_ifs
      · rw [clients_setClients, if_pos ⟨rfl, rfl, rfl⟩, TreeMap.getElem?_erase,
          if_neg fun h => hc (Std.LawfulEqOrd.eq_of_compare h).symm]
      · rfl
    · rw [if_neg hheld, if_neg (show ¬ Option.getD none 0 ≠ routingClient from not_not.mpr rfl)]

/-- A rejection that matches its SUBSCRIBE shows that no other client has the counter. -/
lemma Matches.client_eq (h : t.Matches isMulticast x)
    (hnumbered : ∀ {c d : UInt16} {u v : Subscription Address},
      (t.clients x.service x.inst x.eventgroup)[c]? = some u →
      (t.clients x.service x.inst x.eventgroup)[d]? = some v → u.counter = v.counter → c = d)
    {d : UInt16} {v : Subscription Address}
    (hd : (t.clients x.service x.inst x.eventgroup)[d]? = some v)
    (hcounter : v.counter = x.counter) : d = x.client := by
  have hfilter : (t.clients x.service x.inst x.eventgroup).toList.filter
      (·.2.counter == x.counter) = [(d, v)] :=
    filter_toList_eq hd (by simpa using hcounter) fun hc heq =>
      hnumbered hc hd (Eq.trans (by simpa using heq) hcounter.symm)
  have hnack := h.nack
  rw [nacked_handleEventgroupSubscriptionNack, ← List.head?_filter, hfilter] at hnack
  split_ifs at hnack
  · exact (List.cons.inj hnack).1
  · cases hnack

end Matches

/-! ## The SUBSCRIBEs that are sent -/

/-- The entry of a subscription carries its key and its counter. -/
lemma mem_insertSubscription {service inst eventgroup : UInt16} {u : Subscription Address}
    {offerType : RemoteOfferType} {e : SubscribeEntry}
    (he : e ∈ insertSubscription service inst eventgroup u offerType) :
    e.service = service ∧ e.inst = inst ∧ e.eventgroup = eventgroup ∧ e.counter = u.counter := by
  simp only [insertSubscription, List.mem_ite_nil_right, List.mem_singleton] at he
  obtain ⟨-, rfl⟩ := he
  exact ⟨rfl, rfl, rfl, rfl⟩

/-- What is sent are entries of the message. -/
lemma exists_of_mem_sentSubscribes {client : UInt16} {message : List SubscribeEntry}
    {address : Option Address} {x : SentSubscribe}
    (hx : x ∈ sentSubscribes client (sendTo message address)) :
    ∃ e ∈ message, x = ⟨client, e.service, e.inst, e.eventgroup, e.counter⟩ := by
  obtain ⟨e, he, rfl⟩ := List.mem_map.mp hx
  obtain ⟨call, hcall, hmem⟩ := List.mem_flatMap.mp he
  unfold sendTo at hcall
  split at hcall
  · split_ifs at hcall
    · cases hcall
    · obtain rfl := List.mem_singleton.mp hcall
      exact ⟨e, (List.mem_filter.mp hmem).1, rfl⟩
  · cases hcall

/-- A subscription that is written is held with its counter. -/
lemma isHeld_setClients {service inst eventgroup client : UInt16} {counter : UInt8}
    {m : TreeMap UInt16 (Subscription Address)} {u : Subscription Address}
    (hcounter : counter = u.counter) :
    (t.setClients service inst eventgroup (m.insert client u)).isHeld
      ⟨client, service, inst, eventgroup, counter⟩ := by
  refine isHeld_iff.mpr ⟨u, ?_, hcounter.symm⟩
  rw [clients_setClients, if_pos ⟨rfl, rfl, rfl⟩, TreeMap.getElem?_insert_self]

/-- A SUBSCRIBE that is sent for a new subscription carries its counter. -/
lemma isHeld_subscribe {env : SubscribeEnv Address} {service inst eventgroup client : UInt16}
    {major : UInt8} {ttl : UInt32} {subscriptionType : SubscriptionType} {x : SentSubscribe}
    (hx : x ∈ sentSubscribes client
      (t.subscribe env service inst eventgroup major ttl client subscriptionType).2) :
    (t.subscribe env service inst eventgroup major ttl client subscriptionType).1.isHeld x := by
  simp only [subscribe] at hx ⊢
  split at hx
  · cases hx
  split at hx
  · cases hx
  split at hx
  · cases hx
  rw [if_neg ‹_›, if_neg ‹_›, if_neg ‹_›]
  obtain ⟨e, he, rfl⟩ := exists_of_mem_sentSubscribes hx
  split at he
  · obtain ⟨rfl, rfl, rfl, hcounter⟩ := mem_insertSubscription he
    exact isHeld_setClients hcounter
  · cases he

/-- A SUBSCRIBE that is sent again carries the counter of its subscription. -/
lemma isHeld_renew {offerType : RemoteOfferType} {service inst eventgroup client : UInt16}
    {reliable unreliable : Option (RemoteEndpoint Address)} {tcp udp : Bool}
    {address : Option Address} {x : SentSubscribe}
    (hx : x ∈ sentSubscribes client (t.renew offerType service inst eventgroup client reliable
      unreliable tcp udp address).2) :
    (t.renew offerType service inst eventgroup client reliable unreliable tcp udp
      address).1.isHeld x := by
  rw [renew] at hx ⊢
  split at hx
  · cases hx
  · obtain ⟨e, he, rfl⟩ := exists_of_mem_sentSubscribes hx
    obtain ⟨rfl, rfl, rfl, hcounter⟩ := mem_insertSubscription he
    exact isHeld_setClients hcounter

end Subscribed

/-! ## Runs -/

namespace Subscribing

variable {Address : Type} {isMulticast : Address → Bool} {s : Subscribing Address}

/-- The counters are distinct, and no client has the counter of a SUBSCRIBE of another client that is
not answered. -/
structure Inv (s : Subscribing Address) : Prop where
  numbered : s.subscribed.AllNumbered
  unanswered : ∀ {x}, x ∈ s.unanswered → ∀ {d v},
    (s.subscribed.clients x.service x.inst x.eventgroup)[d]? = some v → v.counter = x.counter →
    d = x.client

/-- The counters find the subscriptions that answers are for. -/
lemma Inv.answerable (h : s.Inv) : s.Answerable isMulticast where
  counter_lt := (h.numbered _ _ _).counter_lt
  distinct := (h.numbered _ _ _).distinct
  held := fun {x} hx => by
    obtain ⟨u, hu, hcounter⟩ := Subscribed.isHeld_iff.mp hx
    exact Subscribed.matches_of_forall fun hd hv =>
      (h.numbered _ _ _).distinct hd hu (hv.trans hcounter.symm)
  unanswered := fun hx => Subscribed.matches_of_forall (h.unanswered hx)

/-- The invariant after a step: the SUBSCRIBEs that it sends carry the counters of subscriptions. -/
lemma Inv.of_step {s' : Subscribing Address} (hnumbered : s'.subscribed.AllNumbered)
    (hold : ∀ {x}, x ∈ s.unanswered → ∀ {d v},
      (s'.subscribed.clients x.service x.inst x.eventgroup)[d]? = some v → v.counter = x.counter →
      d = x.client)
    (hsent : ∀ {x}, x ∈ s'.unanswered → x ∈ s.unanswered ∨ s'.subscribed.isHeld x) : s'.Inv where
  numbered := hnumbered
  unanswered := fun {x} hx d v hd hv => by
    obtain hx | hx := hsent hx
    · exact hold hx hd hv
    · obtain ⟨u, hu, hcounter⟩ := Subscribed.isHeld_iff.mp hx
      exact (hnumbered _ _ _).distinct hd hu (hv.trans hcounter.symm)

/-- A step that makes no subscription keeps the invariant. -/
lemma Inv.of_shrinks (h : s.Inv) {s' : Subscribing Address}
    (hshrinks : ∀ k i g, Shrinks (s.subscribed.clients k i g) (s'.subscribed.clients k i g))
    (hsent : ∀ {x}, x ∈ s'.unanswered → x ∈ s.unanswered ∨ s'.subscribed.isHeld x) : s'.Inv := by
  refine Inv.of_step (fun k i g => (hshrinks k i g).numbered (h.numbered k i g))
    (fun {x} hx d v hd hv => ?_) hsent
  obtain ⟨w, hw, hwv⟩ := (hshrinks _ _ _).exists_of_getElem? hd
  exact h.unanswered hx hw (hwv.trans hv)

/-- A subscription whose counter is not in use keeps the invariant. -/
lemma Inv.subscribe (h : s.Inv) {env : SubscribeEnv Address}
    {service inst eventgroup client : UInt16} {major : UInt8} {ttl : UInt32}
    {subscriptionType : SubscriptionType}
    (hfree : ¬ (SubscribedAction.subscribe env service inst eventgroup major ttl client
      subscriptionType).Collides s) :
    (s.step isMulticast (.subscribe env service inst eventgroup major ttl client
      subscriptionType)).Inv := by
  have hsent {x : SentSubscribe} (hx : x ∈ (s.step isMulticast (.subscribe env service inst eventgroup
      major ttl client subscriptionType)).unanswered) := (List.mem_append.mp hx).imp_right
    Subscribed.isHeld_subscribe
  by_cases hnew : s.subscribed.Subscribes env service inst eventgroup client
  · obtain ⟨u, hu, heq⟩ := Subscribed.exists_subscribe_eq major ttl subscriptionType hnew
    refine Inv.of_step (s := s) (fun k i g => ?_) (fun {x} hx d v hd hv => ?_) hsent
    · simp only [step, heq, Subscribed.clients_setClients]
      split_ifs with hkey
      · refine (h.numbered service inst eventgroup).insert hnew.1 hnew.2.1 hu
          fun {c v} hc hv => hfree ⟨hnew, .inl ⟨c, v, hc, hv⟩⟩
      · exact h.numbered k i g
    · simp only [step, heq, Subscribed.clients_setClients] at hd
      split_ifs at hd with hkey
      · obtain ⟨rfl, rfl, rfl⟩ := hkey
        rw [TreeMap.getElem?_insert] at hd
        split_ifs at hd with hclient
        · -- the new subscription: no other client waits for an answer with its counter
          obtain rfl := Option.some.inj hd
          obtain rfl := Std.LawfulEqOrd.eq_of_compare hclient
          by_contra hne
          exact hfree ⟨hnew, .inr ⟨x.client, x.counter, fun h => hne h.symm, hx, by rw [← hv, hu]⟩⟩
        · exact h.unanswered hx hd hv
      · exact h.unanswered hx hd hv
  · refine h.of_shrinks (fun k i g => ?_) hsent
    simp only [step, Subscribed.subscribe_of_not_subscribes major ttl subscriptionType
      (h.numbered service inst eventgroup).size_le hnew]
    exact Shrinks.refl _

/-- A step that makes no subscription with a counter in use keeps the invariant. -/
lemma Inv.step (h : s.Inv) {a : SubscribedAction Address} (ha : ¬ a.Collides s) :
    (s.step isMulticast a).Inv := by
  cases a with
  | subscribe env service inst eventgroup major ttl client subscriptionType => exact h.subscribe ha
  | renew offerType service inst eventgroup client reliable unreliable tcp udp address =>
    exact h.of_shrinks (Subscribed.shrinks_renew offerType service inst eventgroup client reliable
      unreliable tcp udp address) fun hx =>
        (List.mem_append.mp hx).imp_right Subscribed.isHeld_renew
  | unsubscribe runtime offerType service inst eventgroup client =>
    exact h.of_shrinks (Subscribed.shrinks_unsubscribe runtime offerType service inst eventgroup
      client) .inl
  | unsubscribeAll service inst =>
    exact h.of_shrinks (Subscribed.shrinks_unsubscribeAll service inst) .inl
  | unsubscribeClient runtime offerType service inst client =>
    exact h.of_shrinks (Subscribed.shrinks_unsubscribeClient runtime offerType service inst client)
      .inl
  | ack x address port =>
    exact h.of_shrinks (Subscribed.shrinks_ack isMulticast x.service x.inst x.eventgroup x.counter
      address port) fun hx => .inl (List.mem_of_mem_erase hx)
  | nack x =>
    exact h.of_shrinks (Subscribed.shrinks_nack x.service x.inst x.eventgroup x.counter)
      fun hx => .inl (List.mem_of_mem_erase hx)

/-- A new subscription with a counter in use makes two of them equal, or takes the answer to the
SUBSCRIBE of another client. -/
lemma not_answerable_of_collides {a : SubscribedAction Address} (ha : a.Collides s) :
    ¬ (s.step isMulticast a).Answerable isMulticast := by
  cases a with
  | subscribe env service inst eventgroup major ttl client subscriptionType =>
    obtain ⟨hnew, hused⟩ := ha
    obtain ⟨u, hu, heq⟩ := Subscribed.exists_subscribe_eq major ttl subscriptionType hnew
    intro h
    have hclients : (s.step isMulticast (.subscribe env service inst eventgroup major ttl client
        subscriptionType)).subscribed.clients service inst eventgroup =
        (s.subscribed.clients service inst eventgroup).insert client u := by
      simp only [step, heq, Subscribed.clients_setClients]
      exact if_pos ⟨trivial, trivial, trivial⟩
    have hclient : ((s.step isMulticast (.subscribe env service inst eventgroup major ttl client
        subscriptionType)).subscribed.clients service inst eventgroup)[client]? = some u := by
      rw [hclients, TreeMap.getElem?_insert_self]
    obtain ⟨c, v, hc, hv⟩ | ⟨c, counter, hc, hmem, hv⟩ := hused
    · have hne : client ≠ c := by
        rintro rfl
        exact hnew.1 (TreeMap.mem_iff_isSome_getElem?.mpr (by rw [hc]; rfl))
      refine hne (h.distinct hclient ?_ (UInt8.toNat_inj.mp (hu.trans hv.symm)))
      rw [hclients, TreeMap.getElem?_insert, if_neg]
      · exact hc
      · exact fun hcmp => hne (Std.LawfulEqOrd.eq_of_compare hcmp)
    · have hmatches := h.unanswered (List.mem_append_left _ hmem)
      exact hc (hmatches.client_eq h.distinct hclient (UInt8.toNat_inj.mp (hu.trans hv.symm))).symm
  | _ => exact ha.elim

/-- An empty table meets the invariant. -/
lemma inv_init : (init : Subscribing Address).Inv :=
  ⟨Subscribed.allNumbered_init, fun hx => by cases hx⟩

/-- Along every run, the counters tell the active subscriptions apart, and the answer to every SUBSCRIBE
finds the subscription it is for and no other one, if and only if no new subscription is made on an
eventgroup while the number of subscriptions on it is the counter of one of them, or of a SUBSCRIBE of
another client that is not answered. -/
theorem answerable_iff (isMulticast : Address → Bool) (as : List (SubscribedAction Address)) :
    Runs.Along (step isMulticast) (fun s a => (s.step isMulticast a).Answerable isMulticast) init as ↔
      Runs.Along (step isMulticast) (fun s a => ¬ a.Collides s) init as :=
  @Runs.along_iff _ _ (step isMulticast) Inv (fun _ _ => True) _ _
    (fun {_ _} h _ hgood => ⟨h.step hgood, (h.step hgood).answerable⟩)
    (fun {_ _} _ _ hbad => not_answerable_of_collides (not_not.mp hbad)) as _ inv_init
    (Runs.along_of_forall fun _ _ => trivial)

/-- A host with a connected UDP endpoint to the service. -/
def connected : SubscribeEnv UInt32 :=
  { runtime := true, reliable := none, unreliable := some ⟨some 0x0a000001, true, 30500⟩,
    hasIdentified := fun _ => true, offerType := .unreliable }

/-- A client subscribes to eventgroup 1 of service 0x1234, instance 1. -/
def subscribeTo (client : UInt16) : SubscribedAction UInt32 :=
  .subscribe connected 0x1234 1 1 0 3 client .unreliable

/-- A client unsubscribes. -/
def unsubscribeFrom (client : UInt16) : SubscribedAction UInt32 :=
  .unsubscribe true .unreliable 0x1234 1 1 client

/-- Two clients subscribe, the first one unsubscribes and a third one subscribes: it gets the counter
of the second one. And a client subscribes and unsubscribes before its SUBSCRIBE is answered, and
another one subscribes: the answer finds the other one. -/
theorem not_answerable_resubscribed :
    ¬ Runs.Along (step fun _ => false)
      (fun s a => (s.step (fun _ => false) a).Answerable fun _ => false) init
      [subscribeTo 0x1001, subscribeTo 0x1002, unsubscribeFrom 0x1001, subscribeTo 0x1003] ∧
    ¬ Runs.Along (step fun _ => false)
      (fun s a => (s.step (fun _ => false) a).Answerable fun _ => false) init
      [subscribeTo 0x1001, unsubscribeFrom 0x1001, subscribeTo 0x1003] := by
  refine ⟨fun hrun => ?_, fun hrun => ?_⟩
  · obtain ⟨-, -, -, hlast, -⟩ := hrun
    refine not_answerable_of_collides ?_ hlast
    exact ⟨⟨by decide +kernel, by decide +kernel, rfl⟩, .inl ⟨0x1002, _, rfl, by decide +kernel⟩⟩
  · obtain ⟨-, -, hlast, -⟩ := hrun
    refine not_answerable_of_collides ?_ hlast
    exact ⟨⟨by decide +kernel, by decide +kernel, rfl⟩,
      .inr ⟨0x1001, 0, by decide, by decide +kernel, by decide +kernel⟩⟩

end Subscribing

end Vsomeip.Sd
