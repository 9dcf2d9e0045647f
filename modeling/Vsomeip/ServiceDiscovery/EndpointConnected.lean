import Vsomeip.Lib.Runs
import Vsomeip.ServiceDiscovery.Subscription

set_option relaxedAutoImplicit false
set_option autoImplicit false

/-!
# Subscriptions that wait for a connection

`service_discovery_impl::on_endpoint_connected` is called when a client endpoint is connected. It goes
through the subscriptions on the service instance, marks their transports as established, and sends
those of which all endpoints are. The endpoints of a subscription are compared by their pointers, and
for both transports it is the pointer of the reliable one that is compared.

The objects behind the pointers, the endpoints that the host finds for a client and the clients that
they have identified are those during the call. They may be different ones for every call, and so may
the table be, which other functions change between the calls.

## Main definitions

* `Vsomeip.Sd.LinkedSubscription` — a subscription with pointers to its endpoints.
* `Vsomeip.Sd.LinkedTable.onEndpointConnected` — the function of the source.
* `Vsomeip.Sd.ConnectedCall.Serves` — what a call is there for.
* `Vsomeip.Sd.ConnectedCall.IsStraight` — the condition on the subscriptions.

## Main results

* `Vsomeip.Sd.LinkedTable.serves_along_iff` — the calls of a run do what they are there for exactly if
  all of them meet the condition.
-/

namespace Vsomeip.Sd

open Std (TreeMap)

/-- `subscription`, with the pointers to its endpoints. -/
structure LinkedSubscription (Endpoint : Type) where
  major : UInt8
  ttl : UInt32
  reliable : Option Endpoint
  unreliable : Option Endpoint
  isAcknowledged : Bool
  tcpConnectionEstablished : Bool
  udpConnectionEstablished : Bool
  subscriptionType : SubscriptionType
  counter : UInt8

/-- `subscribed_`. -/
abbrev LinkedTable (Endpoint : Type) :=
  UInt16 → UInt16 → TreeMap UInt16 (TreeMap UInt16 (LinkedSubscription Endpoint))

/-- A call of `on_endpoint_connected`, with what it asks of the host: the runtime, the objects behind
the pointers, the endpoints for a client, the clients that they have identified, and how the service is
offered. The pointer may be null. -/
structure ConnectedCall (Endpoint Address : Type) where
  service : UInt16
  inst : UInt16
  endpoint : Option Endpoint
  runtime : Bool
  object : Endpoint → RemoteEndpoint Address
  remoteClient : UInt16 → Bool → Option Endpoint
  hasIdentified : UInt16 → Bool → Bool
  offerType : RemoteOfferType

section

variable {Endpoint Address : Type} [DecidableEq Endpoint] (call : ConnectedCall Endpoint Address)

namespace LinkedSubscription

variable (s : LinkedSubscription Endpoint)

/-- The subscription with the objects behind its pointers. -/
def resolve (object : Endpoint → RemoteEndpoint Address) : Subscription Address where
  major := s.major
  ttl := s.ttl
  reliable := s.reliable.map object
  unreliable := s.unreliable.map object
  isAcknowledged := s.isAcknowledged
  tcpConnectionEstablished := s.tcpConnectionEstablished
  udpConnectionEstablished := s.udpConnectionEstablished
  subscriptionType := s.subscriptionType
  counter := s.counter

/-- All endpoints that there are are marked as established, and there is one. -/
def isComplete : Bool :=
  (s.reliable.isSome && s.unreliable.isSome && s.tcpConnectionEstablished &&
      s.udpConnectionEstablished) ||
    (s.reliable.isSome && s.unreliable.isNone && s.tcpConnectionEstablished) ||
    (s.unreliable.isSome && s.reliable.isNone && s.udpConnectionEstablished)

end LinkedSubscription

namespace ConnectedCall

/-- The endpoint that a pointer leads to is there and connected. -/
def isConnected (endpoint : Option Endpoint) : Bool :=
  endpoint.any fun e => (call.object e).isConnected

/-- The endpoints of a selective subscription have identified the client. -/
def isIdentified (client : UInt16) (s : LinkedSubscription Endpoint) : Bool :=
  client == routingClient ||
    ((s.reliable.isNone || call.hasIdentified client true) &&
      (s.unreliable.isNone || call.hasIdentified client false))

/-- The two marks. Both compare the pointer of the reliable endpoint. -/
def mark (s : LinkedSubscription Endpoint) : LinkedSubscription Endpoint :=
  { s with
    tcpConnectionEstablished := s.tcpConnectionEstablished ||
      (call.isConnected s.reliable && s.reliable == call.endpoint)
    udpConnectionEstablished := s.udpConnectionEstablished ||
      (call.isConnected s.unreliable && s.reliable == call.endpoint) }

/-- The subscription with the endpoints that `get_subscription_endpoints` finds. -/
def relink (client : UInt16) (s : LinkedSubscription Endpoint) : LinkedSubscription Endpoint :=
  { s with
    reliable := call.remoteClient client true, unreliable := call.remoteClient client false }

/-- The loop body for a subscription: what becomes of it, and whether it is inserted. -/
def visit (client : UInt16) (s : LinkedSubscription Endpoint) : LinkedSubscription Endpoint × Bool :=
  if ¬ call.isIdentified client s then (s, false)
  else if s.tcpConnectionEstablished && s.udpConnectionEstablished then (s, false)
  else if (call.mark s).isComplete then
    ({ call.relink client (call.mark s) with isAcknowledged := false }, true)
  else (call.mark s, false)

/-- The entries that a subscription puts into the message. -/
def inserted (eventgroup client : UInt16) (s : LinkedSubscription Endpoint) : List SubscribeEntry :=
  if (call.visit client s).2 then
    insertSubscription call.service call.inst eventgroup
      ((call.relink client (call.mark s)).resolve call.object) call.offerType
  else []

/-- The address behind `_address` and `_has_address`, before and after `get_subscription_endpoints`. -/
def findAddress (client : UInt16) (address : Option Address) : Option Address :=
  let reliable := (call.remoteClient client true).bind fun e => (call.object e).remoteAddress
  match call.remoteClient client false with
  | some unreliable => (call.object unreliable).remoteAddress.or reliable
  | none => address.or reliable

end ConnectedCall

namespace LinkedTable

variable (t : LinkedTable Endpoint)

/-- The subscriptions on an instance with their eventgroups and clients, in the order of the maps. -/
def subscriptions (service inst : UInt16) : List (UInt16 × UInt16 × LinkedSubscription Endpoint) :=
  (t service inst).toList.flatMap fun (eventgroup, clients) =>
    clients.toList.map fun (client, s) => (eventgroup, client, s)

/-- A subscription in the table. -/
def find (service inst eventgroup client : UInt16) : Option (LinkedSubscription Endpoint) :=
  (t service inst)[eventgroup]?.bind fun clients => clients[client]?

/-- `on_endpoint_connected`. -/
def onEndpointConnected : LinkedTable Endpoint × List (HostCall Address) :=
  if ¬ call.runtime then (t, [])
  else
    let visited := t.subscriptions call.service call.inst
    let message := visited.flatMap fun (eventgroup, client, s) => call.inserted eventgroup client s
    let address := visited.foldl (fun address (_, client, s) =>
      if (call.visit client s).2 then call.findAddress client address else address) none
    (fun service inst =>
      if service = call.service ∧ inst = call.inst then
        (t service inst).map fun _ clients => clients.map fun client s => (call.visit client s).1
      else t service inst,
      sendTo message address)

end LinkedTable

/-! ## What a call is there for -/

/-- In `s'` all endpoints of the subscription `s` are marked as established. -/
def AllMarked (s s' : LinkedSubscription Endpoint) : Prop :=
  (s.reliable.isSome → s'.tcpConnectionEstablished) ∧
    (s.unreliable.isSome → s'.udpConnectionEstablished)

namespace ConnectedCall

/-- The host knows the addresses of the endpoints that it finds. -/
def HasAddresses : Prop :=
  ∀ client isReliable e, call.remoteClient client isReliable = some e →
    (call.object e).remoteAddress.isSome

/-- What a call does for the subscriptions that have identified their endpoints: a transport is marked as
established for its own endpoint only, if that is connected, and if the last endpoint is marked, then
the entries of the subscription are in the message that is sent, provided that the host knows the
addresses of its endpoints. -/
def Serves (t : LinkedTable Endpoint) : Prop :=
  call.runtime → ∀ eventgroup client s, t.find call.service call.inst eventgroup client = some s →
    call.isIdentified client s →
      ∃ s', (t.onEndpointConnected call).1.find call.service call.inst eventgroup client = some s' ∧
        (s'.tcpConnectionEstablished ↔ s.tcpConnectionEstablished ∨
          call.isConnected s.reliable ∧ s.reliable = call.endpoint) ∧
        (s'.udpConnectionEstablished ↔ s.udpConnectionEstablished ∨
          call.isConnected s.unreliable ∧ s.unreliable = call.endpoint) ∧
        (¬ AllMarked s s → AllMarked s s' → call.HasAddresses →
          ∀ entry ∈ insertSubscription call.service call.inst eventgroup
            ((call.relink client s).resolve call.object) call.offerType,
          ∃ message address, HostCall.serializeAndSend message address ∈ (t.onEndpointConnected call).2 ∧
            entry ∈ message)

/-- The unreliable endpoint is connected and not marked, and the call is for the reliable endpoint or for
the unreliable one. -/
def Crosses (s : LinkedSubscription Endpoint) : Prop :=
  s.udpConnectionEstablished = false ∧ call.isConnected s.unreliable ∧
    ¬ (s.reliable = call.endpoint ↔ s.unreliable = call.endpoint)

/-- No subscription that has identified its endpoints waits for a connected unreliable endpoint when one
of its endpoints is reported. -/
def IsStraight (t : LinkedTable Endpoint) : Prop :=
  call.runtime → ∀ eventgroup client s, t.find call.service call.inst eventgroup client = some s →
    call.isIdentified client s → ¬ call.Crosses s

end ConnectedCall

/-- What happens to the table: an endpoint is connected, or other functions change it. -/
inductive ConnectEvent (Endpoint Address : Type)
  | connected (call : ConnectedCall Endpoint Address)
  | others (t : LinkedTable Endpoint)

namespace LinkedTable

variable (t : LinkedTable Endpoint)

/-- The table as a state machine. -/
def step : ConnectEvent Endpoint Address → LinkedTable Endpoint
  | .connected call => (t.onEndpointConnected call).1
  | .others t => t

/-- A call does what it is there for. -/
def Serves : ConnectEvent Endpoint Address → Prop
  | .connected call => call.Serves t
  | .others _ => True

/-- A call meets the condition. -/
def IsStraight : ConnectEvent Endpoint Address → Prop
  | .connected call => call.IsStraight t
  | .others _ => True

/-! ## One subscription -/

variable {call} {t}

/-- A call visits every subscription on the instance. -/
lemma find_onEndpointConnected (h : call.runtime) (eventgroup client : UInt16) :
    (t.onEndpointConnected call).1.find call.service call.inst eventgroup client =
      (t.find call.service call.inst eventgroup client).map fun s => (call.visit client s).1 := by
  unfold onEndpointConnected find
  rw [if_neg (not_not_intro h)]
  dsimp only
  rw [if_pos ⟨rfl, rfl⟩, TreeMap.getElem?_map]
  cases (t call.service call.inst)[eventgroup]? with
  | none => rfl
  | some clients => exact TreeMap.getElem?_map

omit [DecidableEq Endpoint] in
/-- A subscription that is found is one of its service instance. -/
lemma mem_subscriptions {service inst eventgroup client : UInt16} {s : LinkedSubscription Endpoint}
    (h : t.find service inst eventgroup client = some s) :
    (eventgroup, client, s) ∈ t.subscriptions service inst := by
  obtain ⟨clients, hclients, hs⟩ := Option.bind_eq_some_iff.mp h
  refine List.mem_flatMap.mpr ⟨(eventgroup, clients), ?_, List.mem_map.mpr ⟨(client, s), ?_, rfl⟩⟩
  · exact TreeMap.mem_toList_iff_getElem?_eq_some.mpr hclients
  · exact TreeMap.mem_toList_iff_getElem?_eq_some.mpr hs

end LinkedTable

namespace ConnectedCall

variable {call} {client : UInt16} {s : LinkedSubscription Endpoint}

/-- The flags after a visit are those of the marks. -/
lemma flags_visit (h : call.isIdentified client s) :
    (call.visit client s).1.tcpConnectionEstablished = (call.mark s).tcpConnectionEstablished ∧
      (call.visit client s).1.udpConnectionEstablished = (call.mark s).udpConnectionEstablished := by
  unfold visit
  rw [if_neg (not_not_intro h)]
  split_ifs with hboth
  · obtain ⟨htcp, hudp⟩ := Bool.and_eq_true_iff.mp hboth
    simp only [mark, htcp, hudp, Bool.true_or, and_self]
  · exact ⟨rfl, rfl⟩
  · exact ⟨rfl, rfl⟩

/-- The subscription is inserted if its last endpoint is marked. -/
lemma visit_inserts (h : call.isIdentified client s) (hbefore : ¬ AllMarked s s)
    (hafter : AllMarked s (call.mark s)) : (call.visit client s).2 = true := by
  obtain ⟨htcp, hudp⟩ := hafter
  have hboth : ¬ (s.tcpConnectionEstablished && s.udpConnectionEstablished) = true := fun hboth =>
    hbefore ((Bool.and_eq_true_iff.mp hboth).imp (fun h _ => h) fun h _ => h)
  have hcomplete : (call.mark s).isComplete := by
    unfold LinkedSubscription.isComplete
    change ((s.reliable.isSome && s.unreliable.isSome && _ && _) || (s.reliable.isSome &&
      s.unreliable.isNone && _) || (s.unreliable.isSome && s.reliable.isNone && _)) = true
    cases hr : s.reliable with
    | none =>
      cases hu : s.unreliable with
      | none => exact absurd ⟨fun h => by simp [hr] at h, fun h => by simp [hu] at h⟩ hbefore
      | some u => simp [hudp (by rw [hu]; rfl)]
    | some r =>
      cases hu : s.unreliable with
      | none => simp [htcp (by rw [hr]; rfl)]
      | some u => simp [htcp (by rw [hr]; rfl), hudp (by rw [hu]; rfl)]
  unfold visit
  rw [if_neg (not_not_intro h), if_neg hboth, if_pos hcomplete]

/-- The marks are the ones they should be exactly if the call does not cross. -/
lemma not_crosses_iff : ¬ call.Crosses s ↔
    ((call.mark s).udpConnectionEstablished ↔ s.udpConnectionEstablished ∨
      call.isConnected s.unreliable ∧ s.unreliable = call.endpoint) := by
  unfold Crosses mark
  simp only [Bool.or_eq_true, Bool.and_eq_true, beq_iff_eq]
  cases s.udpConnectionEstablished <;> cases call.isConnected s.unreliable <;> simp

/-! ## The message -/

omit [DecidableEq Endpoint] in
/-- A subscription that puts entries into the message has an endpoint. -/
lemma exists_endpoint_of_mem {service inst eventgroup : UInt16} {offerType : RemoteOfferType}
    {entry : SubscribeEntry} (h : entry ∈ insertSubscription service inst eventgroup
      ((call.relink client s).resolve call.object) offerType) :
    (call.remoteClient client true).isSome ∨ (call.remoteClient client false).isSome := by
  by_contra hnone
  obtain ⟨hr, hu⟩ := not_or.mp hnone
  rw [Option.not_isSome_iff_eq_none] at hr hu
  have hempty : insertSubscription service inst eventgroup
      ((call.relink client s).resolve call.object) offerType = [] := by
    simp [insertSubscription, relink, LinkedSubscription.resolve, hr, hu]
  rw [hempty] at h
  exact List.not_mem_nil h

omit [DecidableEq Endpoint] in
/-- The address is known if an endpoint is found. -/
lemma isSome_findAddress (haddresses : call.HasAddresses) (client : UInt16) (address : Option Address) :
    (call.findAddress client address).isSome ↔ address.isSome ∨
      (call.remoteClient client true).isSome ∨ (call.remoteClient client false).isSome := by
  have hr := haddresses client true
  have hu := haddresses client false
  unfold findAddress
  cases hfalse : call.remoteClient client false with
  | none =>
    cases htrue : call.remoteClient client true with
    | none => simp
    | some r => simp [hr r htrue]
  | some u => simp [hu u hfalse]

/-- The address is known in the end if an endpoint is found for a subscription that is inserted. -/
lemma isSome_address (haddresses : call.HasAddresses)
    {visited : List (UInt16 × UInt16 × LinkedSubscription Endpoint)} (address : Option Address)
    (h : address.isSome ∨ ∃ x ∈ visited, (call.visit x.2.1 x.2.2).2 = true ∧
      ((call.remoteClient x.2.1 true).isSome ∨ (call.remoteClient x.2.1 false).isSome)) :
    (visited.foldl (fun address (_, client, s) =>
      if (call.visit client s).2 then call.findAddress client address else address) address).isSome := by
  induction visited generalizing address with
  | nil => exact h.resolve_right fun ⟨x, hx, _⟩ => absurd hx List.not_mem_nil
  | cons x visited ih =>
    refine ih _ ?_
    rcases h with h | ⟨y, hy, hvisit, hfound⟩
    · left
      dsimp only
      split_ifs
      · exact (isSome_findAddress haddresses _ _).mpr (Or.inl h)
      · exact h
    · rcases List.mem_cons.mp hy with rfl | hy
      · left
        dsimp only
        rw [if_pos hvisit]
        exact (isSome_findAddress haddresses _ _).mpr (Or.inr hfound)
      · exact Or.inr ⟨y, hy, hvisit, hfound⟩

/-- The entries of a subscription that is inserted are sent. -/
lemma exists_sent {t : LinkedTable Endpoint} {eventgroup : UInt16} (hruntime : call.runtime)
    (hs : t.find call.service call.inst eventgroup client = some s)
    (hvisit : (call.visit client s).2 = true) (haddresses : call.HasAddresses) {entry : SubscribeEntry}
    (hentry : entry ∈ insertSubscription call.service call.inst eventgroup
      ((call.relink client s).resolve call.object) call.offerType) :
    ∃ message address, HostCall.serializeAndSend message address ∈ (t.onEndpointConnected call).2 ∧
      entry ∈ message := by
  have hmem := LinkedTable.mem_subscriptions hs
  have haddress := isSome_address haddresses none
    (Or.inr ⟨_, hmem, hvisit, exists_endpoint_of_mem hentry⟩)
  obtain ⟨address, haddress⟩ := Option.isSome_iff_exists.mp haddress
  have hmessage : entry ∈ (t.subscriptions call.service call.inst).flatMap fun (eventgroup, client, s) =>
      call.inserted eventgroup client s := by
    refine List.mem_flatMap.mpr ⟨_, hmem, ?_⟩
    unfold inserted
    dsimp only
    rw [if_pos hvisit]
    exact hentry
  refine ⟨_, address, ?_, hmessage⟩
  unfold LinkedTable.onEndpointConnected
  rw [if_neg (not_not_intro hruntime)]
  dsimp only
  rw [haddress, sendTo, if_neg (List.ne_nil_of_mem hmessage)]
  exact List.mem_singleton_self _

/-! ## Main result -/

/-- A call does what it is there for exactly if it does not cross.

**Proof sketch.** The flags after the call are those of the marks, which are right for the reliable
endpoint. For the unreliable one they are right if the call does not cross. If all endpoints are marked
then, and were not before, the subscription is inserted, and its entries are sent. -/
lemma serves_iff_isStraight (t : LinkedTable Endpoint) : call.Serves t ↔ call.IsStraight t := by
  have hmark (s : LinkedSubscription Endpoint) : (call.mark s).tcpConnectionEstablished ↔
      s.tcpConnectionEstablished ∨ call.isConnected s.reliable ∧ s.reliable = call.endpoint := by
    simp only [mark, Bool.or_eq_true, Bool.and_eq_true, beq_iff_eq]
  refine forall_congr' fun hruntime => forall₄_congr fun eventgroup client s hs =>
    forall_congr' fun hident => ?_
  obtain ⟨htcp, hudp⟩ := flags_visit hident
  rw [LinkedTable.find_onEndpointConnected hruntime, hs, Option.map_some, not_crosses_iff, ← hudp]
  constructor
  · rintro ⟨s', heq, -, hudp', -⟩
    rwa [← Option.some.inj heq] at hudp'
  · intro hudp'
    refine ⟨_, rfl, by rw [htcp]; exact hmark s, hudp', fun hbefore hafter haddresses entry hentry => ?_⟩
    have hafter : AllMarked s (call.mark s) := by
      unfold AllMarked at hafter ⊢
      rwa [htcp, hudp] at hafter
    exact exists_sent hruntime hs (visit_inserts hident hbefore hafter) haddresses hentry

end ConnectedCall

namespace LinkedTable

/-- **For every table of subscriptions and every order in which endpoints are connected and reported, each
call marks exactly the transport of its own endpoint and sends the subscriptions of which it marks the
last endpoint, exactly if no subscription waits for a connected unreliable endpoint when one of its
endpoints is reported.** -/
theorem serves_along_iff (t : LinkedTable Endpoint) (events : List (ConnectEvent Endpoint Address)) :
    Runs.Along step Serves t events ↔ Runs.Along step IsStraight t events := by
  have hiff (t : LinkedTable Endpoint) (event : ConnectEvent Endpoint Address) :
      t.Serves event ↔ t.IsStraight event := by
    cases event with
    | connected call => exact ConnectedCall.serves_iff_isStraight t
    | others => exact Iff.rfl
  refine Runs.along_iff (I := fun _ => True) (E := fun _ _ => True) (fun _ _ h => ⟨trivial, ?_⟩)
    (fun _ _ h => ?_) trivial (Runs.along_of_forall fun _ _ => trivial)
  · exact (hiff _ _).mpr h
  · exact mt (hiff _ _).mp h

end LinkedTable

end

namespace LinkedTable

/-- A subscription of the routing client, of which no endpoint is marked. -/
def waiting (reliable unreliable : Option Bool) : LinkedSubscription Bool :=
  { major := 1, ttl := 3, reliable, unreliable, isAcknowledged := true, tcpConnectionEstablished := false,
    udpConnectionEstablished := false, subscriptionType := .reliableAndUnreliable, counter := 0 }

/-- A table with one subscription. -/
def oneWaiting (s : LinkedSubscription Bool) : LinkedTable Bool := fun _ _ =>
  TreeMap.empty.insert 1 (TreeMap.empty.insert routingClient s)

/-- An endpoint is reported while all endpoints of the subscription are connected. -/
def reported (s : LinkedSubscription Bool) (endpoint : Bool) : ConnectedCall Bool Unit where
  service := 1
  inst := 1
  endpoint := some endpoint
  runtime := true
  object _ := { remoteAddress := some (), isConnected := true, localPort := 40000 }
  remoteClient _ isReliable := if isReliable then s.reliable else s.unreliable
  hasIdentified _ _ := true
  offerType := if s.reliable.isSome then .reliableUnreliable else .unreliable

/-- A subscription over UDP only is not sent, and the call for the reliable endpoint marks the unreliable
one. -/
theorem not_serves_along :
    (let s := waiting none (some false)
     ¬ Runs.Along step Serves (oneWaiting s) [.connected (reported s false)]) ∧
    (let s := waiting (some true) (some false)
     ¬ Runs.Along step Serves (oneWaiting s) [.connected (reported s true)]) := by
  refine ⟨fun h => ?_, fun h => ?_⟩
  · exact ConnectedCall.serves_iff_isStraight _ |>.mp h.1 rfl 1 routingClient _ rfl rfl ⟨rfl, rfl, by decide⟩
  · exact ConnectedCall.serves_iff_isStraight _ |>.mp h.1 rfl 1 routingClient _ rfl rfl ⟨rfl, rfl, by decide⟩

end LinkedTable

end Vsomeip.Sd
