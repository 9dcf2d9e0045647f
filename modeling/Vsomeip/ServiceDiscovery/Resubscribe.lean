import Vsomeip.ServiceDiscovery.InsertOption

set_option relaxedAutoImplicit false
set_option autoImplicit false

/-!
# Subscriptions that are renewed

When a remote service instance is offered, `process_offerservice_serviceentry` renews the subscriptions
on it. The entries go into the last one of the messages in `_resubscribes`, which are kept with their
sizes. The room for an entry and its options is reserved first; if there is not enough, another message
is created. Afterwards the size is corrected: by the options that the message had already, or by all
that was reserved, if the insertion reports a failure.

All this counts twelve bytes for an option, which is the size of an IPv4 option. And the insertion for a
service that is offered over both protocols reports a failure if the unreliable endpoint has no local
port, although it has inserted an entry and the option for the reliable endpoint.

The results of the host (endpoints, `has_identified`) are arguments, and so is what the other entries
of a received message do to the table of subscriptions. The calls that restart an endpoint are left out.

## Main definitions

* `Vsomeip.Sd.MessageImpl.insertSubscription`,
  `Vsomeip.Sd.MessageImpl.insertNackSubscriptionOnResubscribe` — the insertions of the source.
* `Vsomeip.Sd.Resubscribes.renew`, `Vsomeip.Sd.Resubscribing.processOfferserviceServiceentry` — the loop
  over the subscriptions.
* `Vsomeip.Sd.Resubscribes.Accounted` — the sizes are those of the messages.
* `Vsomeip.Sd.SubscribedEntry.IsCounted` — the condition on a subscription.
* `Vsomeip.Sd.Grows` — what a renewal does to the messages and to their sizes.

## Main results

* `Vsomeip.Sd.Resubscribes.renew_grows` — all renewals are of this kind.
* `Vsomeip.Sd.Resubscribing.accounted_along_iff` — the sizes are right along a run exactly if all
  subscriptions meet the condition.
-/

namespace Vsomeip.Sd

/-! ## Insertions -/

/-- The members of an entry for a subscription, without its options. -/
structure SubscribeKey where
  service : UInt16
  inst : UInt16
  eventgroup : UInt16

section Insertions

variable {Address : Type} (unicast : IpAddress) (m : MessageImpl) (key : SubscribeKey)
variable (s : Subscription Address)

/-- A new entry for a subscription. SUBSCRIBE_EVENTGROUP and STOP_SUBSCRIBE_EVENTGROUP are the same. -/
def subscribeEntry (ttl : UInt32) : EventgroupentryImpl :=
  { EntryImpl.init with
    type := .subscribeEventgroup, service := key.service, instance_ := key.inst, majorVersion := s.major,
    ttl := ttl, eventgroup := key.eventgroup, reserved := 0, counter := s.counter }

/-- What `insert_subscription` has done so far: the options of the message, the entry if it is created,
and the value of `ret`. -/
structure InsertState where
  options : List SdOption
  entry : Option EntryImpl
  ret : Bool

/-- The part of `insert_subscription` for one endpoint, if it is to be inserted. -/
def InsertState.insertEndpoint (x : InsertState) (endpoint : Option (RemoteEndpoint Address))
    (isReliable : Bool) : InsertState :=
  match endpoint with
  | none => x
  | some endpoint =>
    if endpoint.localPort ≠ 0 then
      let (options, e) := insertOption unicast x.options
        (x.entry.getD (subscribeEntry key s s.ttl).toEntryImpl) unicast endpoint.localPort isReliable
      { options, entry := some e, ret := true }
    else { x with ret := false }

/-- The endpoints that `insert_subscription` inserts for an offer. -/
def Subscription.insertedEndpoint (s : Subscription Address) (offerType : RemoteOfferType)
    (isReliable : Bool) : Option (RemoteEndpoint Address) :=
  match offerType, isReliable with
  | .reliable, true => s.reliable
  | .unreliable, false => s.unreliable
  | .reliableUnreliable, true => if s.unreliable.isSome then s.reliable else none
  | .reliableUnreliable, false => if s.reliable.isSome then s.unreliable else none
  | _, _ => none

namespace MessageImpl

/-- `insert_subscription`: the message and the returned value. -/
def insertSubscription (offerType : RemoteOfferType) : MessageImpl × Bool :=
  let x : InsertState := { options := m.options, entry := none, ret := false }
  let x := x.insertEndpoint unicast key s (s.insertedEndpoint offerType true) true
  let x := x.insertEndpoint unicast key s (s.insertedEndpoint offerType false) false
  ({ m with
      options := x.options
      entries := m.entries ++ x.entry.toList.map fun e =>
        .eventgroup { subscribeEntry key s s.ttl with toEntryImpl := e } }, x.ret)

/-- The two entries of `insert_nack_subscription_on_resubscribe`, with options for some ports. -/
def insertStopAndSubscribe (ports : List (Bool × UInt16)) : MessageImpl :=
  let x := ports.foldl (fun (x : List SdOption × EntryImpl × EntryImpl) port =>
    let (options, stop) := insertOption unicast x.1 x.2.1 unicast port.2 port.1
    let (options, e) := insertOption unicast options x.2.2 unicast port.2 port.1
    (options, stop, e))
    (m.options, (subscribeEntry key s 0).toEntryImpl, (subscribeEntry key s s.ttl).toEntryImpl)
  { m with
    options := x.1
    entries := m.entries ++ [.eventgroup { subscribeEntry key s 0 with toEntryImpl := x.2.1 },
      .eventgroup { subscribeEntry key s s.ttl with toEntryImpl := x.2.2 }] }

/-- `insert_nack_subscription_on_resubscribe`: the message, the returned value and the subscription. -/
def insertNackSubscriptionOnResubscribe (offerType : RemoteOfferType) :
    MessageImpl × Bool × Subscription Address :=
  match offerType, s.reliable, s.unreliable with
  | .unreliable, none, some unreliable =>
    if unreliable.isConnected then
      if unreliable.localPort ≠ 0 then
        (m.insertStopAndSubscribe unicast key s [(false, unreliable.localPort)], true, s)
      else (m, false, s)
    else (m, false, { s with udpConnectionEstablished := false })
  | .reliable, some reliable, none =>
    if reliable.isConnected then
      if reliable.localPort ≠ 0 then
        (m.insertStopAndSubscribe unicast key s [(true, reliable.localPort)], true, s)
      else (m, false, s)
    else (m, false, { s with tcpConnectionEstablished := false })
  | .reliableUnreliable, some reliable, some unreliable =>
    if reliable.isConnected ∧ unreliable.isConnected then
      if reliable.localPort ≠ 0 ∧ unreliable.localPort ≠ 0 then
        (m.insertStopAndSubscribe unicast key s
          [(true, reliable.localPort), (false, unreliable.localPort)], true, s)
      else (m, false, s)
    else (m, false, { s with
      tcpConnectionEstablished := reliable.isConnected && s.tcpConnectionEstablished
      udpConnectionEstablished := unreliable.isConnected && s.udpConnectionEstablished })
  | _, _, _ => (m, false, s)

end MessageImpl

end Insertions

/-! ## Messages with their sizes -/

/-- `_resubscribes`, a vector that is not empty: the last element is kept apart. -/
structure Resubscribes where
  front : List (UInt16 × MessageImpl)
  back : UInt16 × MessageImpl

/-- `VSOMEIP_MAX_UDP_MESSAGE_SIZE`. -/
def maxUdpMessageSize : ℕ := 1416

/-- What the loop over subscriptions asks of the host: the endpoints for the clients, and the clients
that the endpoints have identified. -/
structure RenewEnv (Address : Type) where
  endpoint : UInt16 → Bool → Option (RemoteEndpoint Address)
  hasIdentified : UInt16 → Bool → Bool

/-- An endpoint is there and connected. -/
def isConnected {Address : Type} (endpoint : Option (RemoteEndpoint Address)) : Bool :=
  endpoint.any fun endpoint => endpoint.isConnected

/-- A subscription in the map, with its eventgroup and its client. -/
structure SubscribedEntry (Address : Type) where
  eventgroup : UInt16
  client : UInt16
  subscription : Subscription Address

namespace SubscribedEntry

variable {Address : Type} (env : RenewEnv Address) (e : SubscribedEntry Address)

/-- The subscription with the endpoints that `get_subscription_endpoints` finds. -/
def withEndpoints : Subscription Address :=
  { e.subscription with
    reliable := env.endpoint e.client true, unreliable := env.endpoint e.client false }

/-- The endpoints of a selective subscription have identified the client. -/
def isIdentified : Bool :=
  e.client == routingClient ||
    (((env.endpoint e.client true).isNone || env.hasIdentified e.client true) &&
      ((env.endpoint e.client false).isNone || env.hasIdentified e.client false))

end SubscribedEntry

namespace Resubscribes

/-- The vector in `on_message` before the first entry. -/
def init : Resubscribes := ⟨[], (28, createMessage)⟩

/-- The elements. -/
def all (r : Resubscribes) : List (UInt16 × MessageImpl) := r.front ++ [r.back]

/-- The function `check_space`. -/
def checkSpace (r : Resubscribes) (number : UInt16) : Resubscribes :=
  if r.back.1.toNat + number.toNat > maxUdpMessageSize then
    { front := r.front ++ [r.back], back := (28 + number, createMessage) }
  else { r with back := (r.back.1 + number, r.back.2) }

/-- An insertion into the last message, for which `number` bytes are reserved, `room` of them for
options. The vector and the value that the insertion returns. -/
def insert {α : Type} (r : Resubscribes) (number room : UInt16)
    (insertion : MessageImpl → MessageImpl × Bool × α) : Resubscribes × Bool × α :=
  let r := r.checkSpace number
  let (message, isInserted, a) := insertion r.back.2
  let diff := message.options.length - r.back.2.options.length
  let size :=
    if isInserted then r.back.1 + (12 * UInt16.ofNat diff - room) else r.back.1 - number
  ({ r with back := (size, message) }, isInserted, a)

section Renew

variable {Address : Type} (unicast : IpAddress) (env : RenewEnv Address) (offerType : RemoteOfferType)

/-- The part of the loop for a subscription that is acknowledged. -/
def renewAcknowledged (key : SubscribeKey) (s : Subscription Address) (r : Resubscribes)
    (number room : UInt16) : Resubscribes × Subscription Address :=
  let (r, isInserted, _) := r.insert number room fun m =>
    let (m, ret) := m.insertSubscription unicast key s offerType
    (m, ret, ())
  (r, if isInserted then { s with isAcknowledged := false } else s)

/-- The part of the loop for a subscription whose endpoints are set. -/
def renewWith (key : SubscribeKey) (s : Subscription Address) (r : Resubscribes) :
    Resubscribes × Subscription Address :=
  if s.isAcknowledged then
    match offerType with
    | .unreliable =>
      if isConnected s.unreliable then renewAcknowledged unicast offerType key s r 28 12 else (r, s)
    | .reliable =>
      if isConnected s.reliable then renewAcknowledged unicast offerType key s r 28 12
      else (r, { s with tcpConnectionEstablished := false })
    | .reliableUnreliable =>
      if isConnected s.reliable ∧ isConnected s.unreliable then
        renewAcknowledged unicast offerType key s r 40 24
      else if s.reliable.isSome ∧ ¬ isConnected s.reliable then
        (r, { s with tcpConnectionEstablished := false })
      else (r, s)
    | .unknown => (r, s)
  else
    let (r, _, s) := r.insert 56 24 fun m =>
      m.insertNackSubscriptionOnResubscribe unicast key s offerType
    (r, s)

/-- The loop of `process_offerservice_serviceentry` for a subscription. -/
def renew (r : Resubscribes) (service inst : UInt16) (e : SubscribedEntry Address) :
    Resubscribes × Subscription Address :=
  let s := e.withEndpoints env
  if e.isIdentified env then renewWith unicast offerType ⟨service, inst, e.eventgroup⟩ s r else (r, s)

/-- The loop over all subscriptions on a service instance. -/
def renewAll (r : Resubscribes) (service inst : UInt16) : List (SubscribedEntry Address) →
    Resubscribes × List (SubscribedEntry Address)
  | [] => (r, [])
  | e :: es =>
    let (r, s) := r.renew unicast env offerType service inst e
    let (r, es) := r.renewAll service inst es
    (r, { e with subscription := s } :: es)

end Renew

end Resubscribes

/-! ## Received messages -/

/-- The table of subscriptions and the messages. -/
structure Resubscribing (Address : Type) where
  subscribed : Subscribed Address
  resubscribes : Resubscribes

/-- What the entries of a received message do: an offer renews subscriptions, and others may change the
table. -/
inductive ResubscribeEvent (Address : Type)
  | offer (env : RenewEnv Address) (service inst : UInt16) (endpoints : ServiceEndpoints)
  | others (subscribed : Subscribed Address)

/-- The subscriptions on a service instance, in the order of the map. -/
def Subscribed.entries {Address : Type} (t : Subscribed Address) (service inst : UInt16) :
    List (SubscribedEntry Address) :=
  (t service inst).toList.flatMap fun (eventgroup, clients) =>
    clients.toList.map fun (client, subscription) => ⟨eventgroup, client, subscription⟩

namespace Resubscribing

variable {Address : Type} (unicast : IpAddress)

/-- `process_offerservice_serviceentry`. The type of the offer is the one that was just stored. -/
def processOfferserviceServiceentry (x : Resubscribing Address) (env : RenewEnv Address)
    (service inst : UInt16) (endpoints : ServiceEndpoints) : Resubscribing Address :=
  let (r, es) := x.resubscribes.renewAll unicast env endpoints.offerType service inst
    (x.subscribed.entries service inst)
  { resubscribes := r
    subscribed := es.foldl (fun t e => t.setClients service inst e.eventgroup
      ((t.clients service inst e.eventgroup).insert e.client e.subscription)) x.subscribed }

/-- An entry of the message is processed. -/
def step (x : Resubscribing Address) : ResubscribeEvent Address → Resubscribing Address
  | .offer env service inst endpoints =>
    x.processOfferserviceServiceentry unicast env service inst endpoints
  | .others subscribed => { x with subscribed }

end Resubscribing

/-! ## The condition -/

/-- The port of an endpoint, if it has one, with the kind of the endpoint. -/
def portsOf {Address : Type} (endpoint : Option (RemoteEndpoint Address)) (isReliable : Bool) :
    List (Bool × UInt16) :=
  match endpoint with
  | none => []
  | some endpoint => if endpoint.localPort ≠ 0 then [(isReliable, endpoint.localPort)] else []

namespace Subscription

variable {Address : Type} (s : Subscription Address) (offerType : RemoteOfferType)

/-- The endpoints are connected as it is required for a subscription that is acknowledged. -/
def isReady : Bool :=
  match offerType with
  | .unreliable => isConnected s.unreliable
  | .reliable => isConnected s.reliable
  | .reliableUnreliable => isConnected s.reliable && isConnected s.unreliable
  | .unknown => false

/-- The ports for which the renewal of a subscription that is not acknowledged puts options into a
message. -/
def resubscribedPorts : List (Bool × UInt16) :=
  match offerType, s.reliable, s.unreliable with
  | .unreliable, none, some unreliable =>
    if unreliable.isConnected then portsOf (some unreliable) false else []
  | .reliable, some reliable, none =>
    if reliable.isConnected then portsOf (some reliable) true else []
  | .reliableUnreliable, some reliable, some unreliable =>
    if reliable.isConnected ∧ unreliable.isConnected then
      if reliable.localPort ≠ 0 ∧ unreliable.localPort ≠ 0 then
        [(true, reliable.localPort), (false, unreliable.localPort)]
      else []
    else []
  | _, _, _ => []

/-- The ports for which the renewal of a subscription puts options into a message. -/
def renewedPorts : List (Bool × UInt16) :=
  if s.isAcknowledged then
    if s.isReady offerType then
      portsOf (s.insertedEndpoint offerType true) true ++
        portsOf (s.insertedEndpoint offerType false) false
    else []
  else s.resubscribedPorts offerType

/-- An acknowledged subscription on a service that is offered over both protocols, of which only the
reliable endpoint has a port. -/
def IsHalfRenewed : Prop :=
  s.isAcknowledged ∧ offerType = .reliableUnreliable ∧
    ∃ reliable ∈ s.reliable, ∃ unreliable ∈ s.unreliable,
      (reliable.isConnected ∧ unreliable.isConnected) ∧
        reliable.localPort ≠ 0 ∧ unreliable.localPort = 0

end Subscription

/-- The renewal of a subscription keeps the sizes right: it is not half renewed, and no option is larger
than an IPv4 option. -/
def SubscribedEntry.IsCounted {Address : Type} (unicast : IpAddress) (env : RenewEnv Address)
    (offerType : RemoteOfferType) (e : SubscribedEntry Address) : Prop :=
  e.isIdentified env → ¬ (e.withEndpoints env).IsHalfRenewed offerType ∧
    (unicast.isV6 → (e.withEndpoints env).renewedPorts offerType = [])

/-- Every element has the size of its message, which fits into a datagram. -/
def Resubscribes.Accounted (r : Resubscribes) : Prop :=
  ∀ p ∈ r.all, p.1.toNat = 28 + p.2.contentSize ∧ 28 + p.2.contentSize ≤ maxUdpMessageSize

instance (r : Resubscribes) : Decidable r.Accounted :=
  inferInstanceAs (Decidable (∀ p ∈ r.all, _ ∧ _))

/-! ## What an insertion does -/

/-- The options for some ports are there behind the others. -/
def addPorts (unicast : IpAddress) (options : List SdOption) (ports : List (Bool × UInt16)) :
    List SdOption :=
  ports.foldl (fun options port =>
    addOption options (unicast.endpointOption (layerFourProtocol port.1) port.2)) options

section AddPorts

variable {unicast : IpAddress} {options : List SdOption} {ports : List (Bool × UInt16)}

/-- Options are added for some ports, then for others. -/
lemma addPorts_append (ports' : List (Bool × UInt16)) :
    addPorts unicast options (ports ++ ports') =
      addPorts unicast (addPorts unicast options ports) ports' :=
  List.foldl_append

/-- New options are at the end, one for a port at most, and they have the size of their kind. -/
lemma addPorts_eq_append (unicast : IpAddress) (options : List SdOption) (ports : List (Bool × UInt16)) :
    ∃ created, addPorts unicast options ports = options ++ created ∧
    created.length ≤ ports.length ∧ ∀ o ∈ created, o.bytes.length = unicast.optionSize := by
  induction ports generalizing options with
  | nil => exact ⟨[], (List.append_nil _).symm, Nat.le_refl 0, nofun⟩
  | cons port ports ih =>
    obtain ⟨created, heq, hlength, hsize⟩ :=
      ih (addOption options (unicast.endpointOption (layerFourProtocol port.1) port.2))
    by_cases h : unicast.endpointOption (layerFourProtocol port.1) port.2 ∈ options
    · refine ⟨created, heq.trans ?_, Nat.le_succ_of_le hlength, hsize⟩
      rw [addOption, if_pos h]
    · refine ⟨unicast.endpointOption (layerFourProtocol port.1) port.2 :: created, heq.trans ?_,
        Nat.succ_le_succ hlength, List.forall_mem_cons.mpr ⟨unicast.length_endpointOption _ _, hsize⟩⟩
      rw [addOption, if_neg h, List.append_assoc, List.singleton_append]

/-- There are options if there are ports. -/
lemma addPorts_ne_nil (h : ports ≠ []) : addPorts unicast options ports ≠ [] := by
  obtain ⟨port, ports, rfl⟩ := List.exists_cons_of_ne_nil h
  obtain ⟨created, heq, -⟩ := addPorts_eq_append unicast
    (addOption options (unicast.endpointOption (layerFourProtocol port.1) port.2)) ports
  refine ne_of_eq_of_ne heq fun hnil => ?_
  exact List.ne_nil_of_mem mem_addOption_self (List.append_eq_nil_iff.mp hnil).1

end AddPorts

/-- An insertion puts `n` entries and the options for some ports into a message, and returns `ret`. -/
structure Inserts {α : Type} (unicast : IpAddress) (insertion : MessageImpl → MessageImpl × Bool × α)
    (n : ℕ) (ports : List (Bool × UInt16)) (ret : Bool) : Prop where
  entries : ∀ m, (insertion m).1.entries.length = m.entries.length + n
  options : ∀ m, (insertion m).1.options = addPorts unicast m.options ports
  isInserted : ∀ m, (insertion m).2.1 = ret

section Insertions

variable {Address : Type} (unicast : IpAddress) (key : SubscribeKey) (s : Subscription Address)
variable (offerType : RemoteOfferType)

section InsertEndpoint

variable (x : InsertState) (endpoint : Option (RemoteEndpoint Address)) (isReliable : Bool)

/-- The options after an endpoint is inserted. -/
lemma InsertState.options_insertEndpoint : (x.insertEndpoint unicast key s endpoint isReliable).options =
    addPorts unicast x.options (portsOf endpoint isReliable) := by
  unfold insertEndpoint portsOf
  split
  · rfl
  · split_ifs
    · rw [insertOption_eq]
      rfl
    · rfl

/-- The entry is created for the first port. -/
lemma InsertState.isSome_entry_insertEndpoint :
    (x.insertEndpoint unicast key s endpoint isReliable).entry.isSome =
      (x.entry.isSome || !(portsOf endpoint isReliable).isEmpty) := by
  unfold insertEndpoint portsOf
  split
  · exact (Bool.or_false _).symm
  · split_ifs
    · exact (Bool.or_true _).symm
    · exact (Bool.or_false _).symm

/-- The last endpoint decides on the result. -/
lemma InsertState.ret_insertEndpoint : (x.insertEndpoint unicast key s endpoint isReliable).ret =
    endpoint.elim x.ret fun endpoint => decide (endpoint.localPort ≠ 0) := by
  unfold insertEndpoint
  split
  · rfl
  · split_ifs with h
    · exact (decide_eq_true h).symm
    · exact (decide_eq_false h).symm

end InsertEndpoint

/-- The value that `insert_subscription` returns. -/
def Subscription.isInserted : Bool :=
  (s.insertedEndpoint offerType false).elim
    ((s.insertedEndpoint offerType true).elim false fun endpoint => decide (endpoint.localPort ≠ 0))
    fun endpoint => decide (endpoint.localPort ≠ 0)

/-- What `insert_subscription` adds to a message. -/
lemma inserts_insertSubscription {ports : List (Bool × UInt16)}
    (hports : ports = portsOf (s.insertedEndpoint offerType true) true ++
      portsOf (s.insertedEndpoint offerType false) false) :
    Inserts unicast (fun m =>
      let (m, ret) := m.insertSubscription unicast key s offerType
      (m, ret, ())) (if ports = [] then 0 else 1) ports (s.isInserted offerType) where
  entries m := by
    simp only [MessageImpl.insertSubscription, List.length_append, List.length_map, Option.length_toList,
      InsertState.isSome_entry_insertEndpoint, Option.isSome_none, Bool.false_or]
    rw [hports]
    generalize portsOf (s.insertedEndpoint offerType true) true = reliable
    generalize portsOf (s.insertedEndpoint offerType false) false = unreliable
    cases reliable with
    | nil => cases unreliable <;> rfl
    | cons _ _ => rfl
  options m := by
    rw [hports, addPorts_append]
    exact (InsertState.options_insertEndpoint _ _ _ _ _ _).trans
      (congrArg (addPorts unicast · _) (InsertState.options_insertEndpoint _ _ _ _ _ _))
  isInserted m := by
    refine (InsertState.ret_insertEndpoint _ _ _ _ _ _).trans ?_
    rw [InsertState.ret_insertEndpoint]
    rfl

/-- Inserting the option of a port for both entries is inserting it once. -/
lemma inserts_insertStopAndSubscribe {α : Type} (ports : List (Bool × UInt16)) (a : α) :
    Inserts unicast (fun m => (m.insertStopAndSubscribe unicast key s ports, true, a)) 2 ports true where
  entries m := by
    rw [MessageImpl.insertStopAndSubscribe, List.length_append]
    rfl
  options m := by
    unfold MessageImpl.insertStopAndSubscribe addPorts
    dsimp only
    generalize ((subscribeEntry key s 0).toEntryImpl, (subscribeEntry key s s.ttl).toEntryImpl) = entries
    generalize m.options = options
    induction ports generalizing options entries with
    | nil => rfl
    | cons port ports ih =>
      rw [List.foldl_cons, List.foldl_cons, insertOption_eq]
      dsimp only
      rw [insertOption_eq]
      dsimp only
      rw [addOption_of_mem mem_addOption_self]
      exact ih _ _
  isInserted _ := rfl

end Insertions

/-! ## What a renewal does -/

/-- The last message, or a new one behind it, gets `n` entries and the options for some ports. Its size
grows by what is put in, if that is counted. -/
structure Grows (unicast : IpAddress) (ports : List (Bool × UInt16)) (IsCounted : Prop)
    (r r' : Resubscribes) (base : UInt16 × MessageImpl) (n : ℕ) : Prop where
  isLast : r'.front = r.front ∧ base = r.back ∨
    r'.front = r.front ++ [r.back] ∧ base = (28, createMessage)
  entries : r'.back.2.entries.length = base.2.entries.length + n
  options : r'.back.2.options = addPorts unicast base.2.options ports
  eq_zero_iff : n = 0 ↔ ports = []
  size_le : r'.back.1.toNat ≤ maxUdpMessageSize
  size_of_counted : IsCounted → r'.back.1.toNat =
    base.1.toNat + 16 * n + 12 * (r'.back.2.options.length - base.2.options.length)
  size_of_not_counted : ¬ IsCounted → r'.back.1.toNat = base.1.toNat

section Grows

variable {unicast : IpAddress} {ports : List (Bool × UInt16)} {r r' : Resubscribes} {IsCounted : Prop}
variable {base : UInt16 × MessageImpl} {n : ℕ}

/-- Nothing is inserted. -/
lemma Grows.refl (hr : r.back.1.toNat ≤ maxUdpMessageSize) (hports : ports = []) :
    Grows unicast ports IsCounted r r r.back 0 where
  isLast := Or.inl ⟨rfl, rfl⟩
  entries := rfl
  options := by rw [hports]; rfl
  eq_zero_iff := iff_of_true rfl hports
  size_le := hr
  size_of_counted _ := by rw [Nat.sub_self]; rfl
  size_of_not_counted _ := rfl

/-- It does not matter whether nothing is counted. -/
lemma Grows.congr {IsCounted' : Prop} (h : Grows unicast ports IsCounted r r' base n)
    (hcounted : ports ≠ [] → (IsCounted ↔ IsCounted')) : Grows unicast ports IsCounted' r r' base n := by
  by_cases hports : ports = []
  · have hn : n = 0 := h.eq_zero_iff.mpr hports
    have hoptions : r'.back.2.options = base.2.options := by rw [h.options, hports]; rfl
    have hsize : r'.back.1.toNat = base.1.toNat := by
      by_cases hc : IsCounted
      · rw [h.size_of_counted hc, hn, hoptions, Nat.sub_self]
        rfl
      · exact h.size_of_not_counted hc
    refine { h with size_of_counted := fun _ => ?_, size_of_not_counted := fun _ => hsize }
    rw [hsize, hn, hoptions, Nat.sub_self]
    rfl
  · exact { h with
      size_of_counted := fun hc => h.size_of_counted ((hcounted hports).mpr hc)
      size_of_not_counted := fun hc => h.size_of_not_counted (mt (hcounted hports).mp hc) }

end Grows

/-- The room for options is replaced by what the new options need. -/
lemma toNat_corrected {reserved room : UInt16} {diff : ℕ} (hdiff : 12 * diff ≤ room.toNat)
    (hroom : room.toNat ≤ reserved.toNat) : (reserved + (12 * UInt16.ofNat diff - room)).toNat =
      reserved.toNat - room.toNat + 12 * diff := by
  have hlt := reserved.toNat_lt
  have hmul : (12 * UInt16.ofNat diff).toNat = 12 * diff := by
    rw [UInt16.toNat_mul, UInt16.toNat_ofNat', Nat.mod_eq_of_lt (by omega : diff < 2 ^ 16)]
    exact Nat.mod_eq_of_lt (by omega : 12 * diff < 2 ^ 16)
  rw [UInt16.toNat_add, UInt16.toNat_sub, hmul]
  omega

namespace Resubscribes

variable {r : Resubscribes} {number room : UInt16}

/-- There is room in the last message, or in a new one. -/
lemma checkSpace_eq (hnumber : 28 + number.toNat ≤ maxUdpMessageSize) :
    ∃ base, ((r.checkSpace number).front = r.front ∧ base = r.back ∨
        (r.checkSpace number).front = r.front ++ [r.back] ∧ base = (28, createMessage)) ∧
      (r.checkSpace number).back = (base.1 + number, base.2) ∧
      base.1.toNat + number.toNat ≤ maxUdpMessageSize := by
  unfold checkSpace
  split_ifs with h
  · exact ⟨(28, createMessage), Or.inr ⟨rfl, rfl⟩, rfl, hnumber⟩
  · exact ⟨r.back, Or.inl ⟨rfl, rfl⟩, rfl, Nat.le_of_not_gt h⟩

/-- An insertion for which enough is reserved. -/
lemma insert_grows {α : Type} {unicast : IpAddress} {ports : List (Bool × UInt16)} {n : ℕ} {ret : Bool}
    {insertion : MessageImpl → MessageImpl × Bool × α} (h : Inserts unicast insertion n ports ret)
    (hn : n = 0 ↔ ports = []) (hnumber : 28 + number.toNat ≤ maxUdpMessageSize)
    (hret : ret → number.toNat = 16 * n + room.toNat ∧ 12 * ports.length ≤ room.toNat) :
    ∃ base, Grows unicast ports (ret = true) r (r.insert number room insertion).1 base n := by
  obtain ⟨base, hlast, hback, hle⟩ := checkSpace_eq (r := r) hnumber
  obtain ⟨created, hcreated, hlength, -⟩ := addPorts_eq_append unicast base.2.options ports
  have hsum : (base.1 + number).toNat = base.1.toNat + number.toNat := by
    rw [UInt16.toNat_add, Nat.mod_eq_of_lt (Nat.lt_of_le_of_lt hle (by decide))]
  have hdiff : (insertion base.2).1.options.length - base.2.options.length = created.length := by
    rw [h.options, hcreated, List.length_append, Nat.add_sub_cancel_left]
  have hmessage : (r.insert number room insertion).1.back.2 = (insertion base.2).1 := by
    simp only [insert, hback]
  have hsize : (r.insert number room insertion).1.back.1.toNat =
      base.1.toNat + if ret then 16 * n + 12 * created.length else 0 := by
    simp only [insert, hback, h.isInserted, hdiff]
    cases ret with
    | true =>
      obtain ⟨hreserved, hroom⟩ := hret rfl
      rw [if_pos rfl, if_pos rfl, toNat_corrected (by omega) (by omega)]
      omega
    | false => rw [if_neg Bool.false_ne_true, if_neg Bool.false_ne_true, UInt16.add_sub_cancel]; rfl
  refine ⟨base, hlast, ?_, ?_, hn, ?_, fun hc => ?_, fun hc => ?_⟩
  · rw [hmessage, h.entries]
  · rw [hmessage, h.options]
  · rw [hsize]
    split_ifs with hc
    · have := hret hc
      omega
    · omega
  · rw [hsize, if_pos hc, hmessage, hdiff, Nat.add_assoc]
  · rw [hsize, if_neg hc, Nat.add_zero]

end Resubscribes

/-- An endpoint is connected if it is there and is connected. -/
lemma isConnected_iff {Address : Type} {endpoint : Option (RemoteEndpoint Address)} :
    isConnected endpoint ↔ ∃ e, endpoint = some e ∧ e.isConnected := by
  cases endpoint <;> simp [isConnected]

section Renew

variable {Address : Type} (unicast : IpAddress) (offerType : RemoteOfferType)
variable (key : SubscribeKey) (s : Subscription Address) {r : Resubscribes}

/-- An endpoint has one port at most. -/
lemma length_portsOf_le (endpoint : Option (RemoteEndpoint Address)) (isReliable : Bool) :
    (portsOf endpoint isReliable).length ≤ 1 := by
  unfold portsOf
  split
  · exact Nat.zero_le 1
  · split_ifs
    · exact Nat.le_refl 1
    · exact Nat.zero_le 1

namespace Subscription

variable {s offerType}

/-- The ports of an acknowledged subscription that is ready. -/
lemma renewedPorts_of_isReady (hack : s.isAcknowledged) (hready : s.isReady offerType) :
    s.renewedPorts offerType = portsOf (s.insertedEndpoint offerType true) true ++
      portsOf (s.insertedEndpoint offerType false) false := by
  rw [renewedPorts, if_pos hack, if_pos hready]

/-- The insertion for an acknowledged subscription fails exactly if there is no port or the subscription
is half renewed. -/
lemma isInserted_iff (hack : s.isAcknowledged) (hready : s.isReady offerType) :
    s.isInserted offerType ↔ s.renewedPorts offerType ≠ [] ∧ ¬ s.IsHalfRenewed offerType := by
  rw [renewedPorts_of_isReady hack hready]
  cases offerType with
  | unreliable =>
    obtain ⟨unreliable, hu, -⟩ := isConnected_iff.mp hready
    simp [isInserted, insertedEndpoint, IsHalfRenewed, portsOf, hu]
  | reliable =>
    obtain ⟨reliable, hr, -⟩ := isConnected_iff.mp hready
    simp [isInserted, insertedEndpoint, IsHalfRenewed, portsOf, hr]
  | reliableUnreliable =>
    obtain ⟨hr, hu⟩ := Bool.and_eq_true_iff.mp hready
    obtain ⟨reliable, hr, hcr⟩ := isConnected_iff.mp hr
    obtain ⟨unreliable, hu, hcu⟩ := isConnected_iff.mp hu
    by_cases hp : unreliable.localPort = 0 <;>
      simp [isInserted, insertedEndpoint, IsHalfRenewed, portsOf, hr, hu, hp, hack, hcr, hcu]
  | unknown => exact absurd hready Bool.false_ne_true

/-- A subscription that is renewed by half has a port. -/
lemma renewedPorts_ne_nil (h : s.IsHalfRenewed offerType) : s.renewedPorts offerType ≠ [] := by
  obtain ⟨hack, rfl, reliable, hr, unreliable, hu, ⟨hcr, hcu⟩, hport, -⟩ := h
  have hready : s.isReady .reliableUnreliable :=
    Bool.and_eq_true_iff.mpr ⟨isConnected_iff.mpr ⟨reliable, hr, hcr⟩,
      isConnected_iff.mpr ⟨unreliable, hu, hcu⟩⟩
  rw [renewedPorts_of_isReady hack hready]
  have hinserted : s.insertedEndpoint .reliableUnreliable true = some reliable := by
    rw [insertedEndpoint, hu]
    exact hr
  rw [hinserted, portsOf, if_pos hport]
  exact nofun

/-- The options of an acknowledged subscription fit into the reserved size. -/
lemma length_renewedPorts_le (hack : s.isAcknowledged) (hready : s.isReady offerType) :
    12 * (s.renewedPorts offerType).length ≤ if offerType = .reliableUnreliable then 24 else 12 := by
  rw [renewedPorts_of_isReady hack hready, List.length_append]
  have hr := length_portsOf_le (s.insertedEndpoint offerType true) true
  have hu := length_portsOf_le (s.insertedEndpoint offerType false) false
  cases offerType with
  | unreliable =>
    change 12 * (0 + _) ≤ 12
    omega
  | reliable =>
    change 12 * (_ + 0) ≤ 12
    omega
  | reliableUnreliable =>
    change 12 * _ ≤ 24
    omega
  | unknown => exact absurd hready Bool.false_ne_true

end Subscription

/-- The insertion for a subscription that is not acknowledged puts in all or nothing. -/
lemma insertNackSubscriptionOnResubscribe_eq (m : MessageImpl) :
    ∃ s', m.insertNackSubscriptionOnResubscribe unicast key s offerType =
      if s.resubscribedPorts offerType = [] then (m, false, s')
      else (m.insertStopAndSubscribe unicast key s (s.resubscribedPorts offerType), true, s') := by
  unfold MessageImpl.insertNackSubscriptionOnResubscribe Subscription.resubscribedPorts portsOf
  split <;> split_ifs <;> simp_all

/-- What `insert_nack_subscription_on_resubscribe` adds to a message. -/
lemma inserts_insertNackSubscriptionOnResubscribe {ports : List (Bool × UInt16)}
    (hports : s.resubscribedPorts offerType = ports) :
    Inserts unicast (fun m => m.insertNackSubscriptionOnResubscribe unicast key s offerType)
      (if ports = [] then 0 else 2) ports (decide (ports ≠ [])) := by
  by_cases h : ports = []
  · have heq (m : MessageImpl) := insertNackSubscriptionOnResubscribe_eq unicast offerType key s m
    rw [if_pos h, decide_eq_false (not_not_intro h), h]
    simp only [hports, if_pos h] at heq
    refine ⟨fun m => ?_, fun m => ?_, fun m => ?_⟩ <;> obtain ⟨s', heq⟩ := heq m <;> rw [heq] <;> rfl
  · have heq (m : MessageImpl) := insertNackSubscriptionOnResubscribe_eq unicast offerType key s m
    rw [if_neg h, decide_eq_true h]
    simp only [hports, if_neg h] at heq
    refine ⟨fun m => ?_, fun m => ?_, fun m => ?_⟩ <;> obtain ⟨s', heq⟩ := heq m <;> rw [heq]
    · exact (inserts_insertStopAndSubscribe unicast key s ports s').entries m
    · exact (inserts_insertStopAndSubscribe unicast key s ports s').options m

/-- A subscription that is made anew has two ports at most. -/
lemma length_resubscribedPorts_le : (s.resubscribedPorts offerType).length ≤ 2 := by
  unfold Subscription.resubscribedPorts
  split
  · split_ifs
    · exact (length_portsOf_le _ _).trans (Nat.le_succ 1)
    · exact Nat.zero_le 2
  · split_ifs
    · exact (length_portsOf_le _ _).trans (Nat.le_succ 1)
    · exact Nat.zero_le 2
  · split_ifs
    · exact Nat.le_refl 2
    · exact Nat.zero_le 2
    · exact Nat.zero_le 2
  · exact Nat.zero_le 2

namespace Resubscribes

/-- An acknowledged subscription is renewed, with room for an entry and for the options. -/
lemma renewAcknowledged_grows {number room : UInt16} (hack : s.isAcknowledged)
    (hready : s.isReady offerType) (hnumber : 28 + number.toNat ≤ maxUdpMessageSize)
    (hroom : number.toNat = 16 + room.toNat)
    (hlength : 12 * (s.renewedPorts offerType).length ≤ room.toNat) :
    ∃ base n, Grows unicast (s.renewedPorts offerType) (¬ s.IsHalfRenewed offerType) r
      (r.renewAcknowledged unicast offerType key s number room).1 base n := by
  have hports := Subscription.renewedPorts_of_isReady hack hready
  have hiff := Subscription.isInserted_iff hack hready
  obtain ⟨base, h⟩ := insert_grows (r := r)
    (inserts_insertSubscription unicast key s offerType hports) (by split_ifs <;> simp_all) hnumber
    fun hret => by rw [if_neg (hiff.mp hret).1]; exact ⟨hroom, hlength⟩
  exact ⟨base, _, h.congr fun hne => hiff.trans (and_iff_right hne)⟩

/-- The renewal of an acknowledged subscription. -/
lemma renewWith_of_isAcknowledged (hack : s.isAcknowledged) :
    (r.renewWith unicast offerType key s).1 =
      if s.isReady offerType then
        (r.renewAcknowledged unicast offerType key s (if offerType = .reliableUnreliable then 40 else 28)
          (if offerType = .reliableUnreliable then 24 else 12)).1
      else r := by
  unfold renewWith
  rw [if_pos hack]
  cases offerType with
  | unreliable => exact apply_ite Prod.fst _ _ _
  | reliable => exact apply_ite Prod.fst _ _ _
  | reliableUnreliable =>
    simp only [Subscription.isReady, Bool.and_eq_true]
    split_ifs <;> rfl
  | unknown => rfl

/-- What the renewal of a subscription does.

**Proof sketch.** If the subscription is acknowledged and its endpoints are ready, then it is inserted
with the room that the type of the offer needs. If it is not acknowledged, then the insertion does
nothing, or it inserts two entries with as many options as there is room for. -/
lemma renewWith_grows (hr : r.back.1.toNat ≤ maxUdpMessageSize) :
    ∃ base n, Grows unicast (s.renewedPorts offerType) (¬ s.IsHalfRenewed offerType) r
      (r.renewWith unicast offerType key s).1 base n := by
  by_cases hack : s.isAcknowledged
  · rw [renewWith_of_isAcknowledged unicast offerType key s hack]
    by_cases hready : s.isReady offerType
    · have hlength := Subscription.length_renewedPorts_le hack hready
      rw [if_pos hready]
      refine renewAcknowledged_grows unicast offerType key s hack hready ?_ ?_ (hlength.trans ?_)
      all_goals split_ifs <;> decide
    · have hports : s.renewedPorts offerType = [] := by
        rw [Subscription.renewedPorts, if_pos hack, if_neg hready]
      rw [if_neg hready]
      exact ⟨_, _, Grows.refl hr hports⟩
  · have hhalf : ¬ s.IsHalfRenewed offerType := fun h => hack h.1
    have hports : s.renewedPorts offerType = s.resubscribedPorts offerType :=
      if_neg hack
    have hlength := length_resubscribedPorts_le offerType s
    have hinserts := inserts_insertNackSubscriptionOnResubscribe unicast offerType key s hports.symm
    obtain ⟨base, h⟩ : ∃ base, Grows unicast _ _ r (r.insert 56 24 _).1 base _ :=
      insert_grows hinserts (by split_ifs <;> simp_all) (by decide) fun hret => by
        rw [if_neg (of_decide_eq_true hret), hports]
        exact ⟨rfl, Nat.mul_le_mul_left 12 hlength⟩
    unfold renewWith
    rw [if_neg hack]
    exact ⟨base, _, h.congr fun hne => iff_of_true (decide_eq_true hne) hhalf⟩

end Resubscribes

/-- The renewal of a subscription grows the vector. If it does not keep the sizes right, then it inserts
something that is not counted or that is larger. -/
lemma Resubscribes.renew_grows (env : RenewEnv Address) (service inst : UInt16)
    (e : SubscribedEntry Address) (hr : r.back.1.toNat ≤ maxUdpMessageSize) :
    ∃ ports IsCounted base n,
      Grows unicast ports IsCounted r (r.renew unicast env offerType service inst e).1 base n ∧
        (e.IsCounted unicast env offerType ↔ ports ≠ [] → IsCounted ∧ ¬ unicast.isV6) := by
  unfold renew SubscribedEntry.IsCounted
  by_cases hident : e.isIdentified env
  · obtain ⟨base, n, h⟩ := renewWith_grows unicast offerType ⟨service, inst, e.eventgroup⟩
      (e.withEndpoints env) hr
    have hhalf : (e.withEndpoints env).IsHalfRenewed offerType →
        (e.withEndpoints env).renewedPorts offerType ≠ [] := Subscription.renewedPorts_ne_nil
    refine ⟨(e.withEndpoints env).renewedPorts offerType,
      ¬ (e.withEndpoints env).IsHalfRenewed offerType, base, n, ?_, ?_⟩
    · rw [if_pos hident]
      exact h
    · tauto
  · refine ⟨[], True, r.back, 0, ?_, iff_of_true (fun h => absurd h hident) fun h => absurd rfl h⟩
    rw [if_neg hident]
    exact Grows.refl hr rfl

end Renew

/-! ## Sizes -/

/-- The size of a message is not too large, and whatever an option needs more than an IPv4 option is
missing in it. -/
def IsWithin (unicast : IpAddress) (p : UInt16 × MessageImpl) : Prop :=
  p.1.toNat ≤ maxUdpMessageSize ∧
    p.1.toNat + (unicast.optionSize - 12) * p.2.options.length ≤ 28 + p.2.contentSize

/-- The size of a message is right. -/
def IsExact (unicast : IpAddress) (p : UInt16 × MessageImpl) : Prop :=
  IsWithin unicast p ∧ p.1.toNat = 28 + p.2.contentSize

/-- The size of a message is too small. -/
def IsShort (p : UInt16 × MessageImpl) : Prop := p.1.toNat < 28 + p.2.contentSize

/-- A new message has its exact size. -/
lemma isExact_createMessage (unicast : IpAddress) : IsExact unicast (28, createMessage) :=
  ⟨⟨by decide, Nat.le_refl 28⟩, rfl⟩

/-- The size of an endpoint option, by the version of IP. -/
lemma optionSize_eq (unicast : IpAddress) : unicast.optionSize = if unicast.isV6 then 24 else 12 := by
  cases unicast <;> rfl

section Sizes

variable {unicast : IpAddress} {ports : List (Bool × UInt16)} {r r' : Resubscribes} {IsCounted : Prop}
variable {base : UInt16 × MessageImpl} {n : ℕ}

namespace Grows

/-- The messages after a renewal: those before and the last one. -/
lemma mem_all_iff (h : Grows unicast ports IsCounted r r' base n) {p : UInt16 × MessageImpl} :
    p ∈ r'.all → p ∈ r.all ∨ p = r'.back := by
  unfold Resubscribes.all
  rcases h.isLast with ⟨hfront, -⟩ | ⟨hfront, -⟩ <;> rw [hfront] <;> simp only [List.mem_append,
    List.mem_singleton] <;> tauto

/-- The last message comes from one that was there, or from a new one. -/
lemma of_base (h : Grows unicast ports IsCounted r r' base n) {P : UInt16 × MessageImpl → Prop}
    (hall : ∀ p ∈ r.all, P p) (hnew : P (28, createMessage)) : P base := by
  rcases h.isLast with ⟨-, rfl⟩ | ⟨-, rfl⟩
  · exact hall _ (List.mem_append_right _ (List.mem_singleton_self _))
  · exact hnew

/-- A property of all messages after a renewal. -/
lemma forall_all (h : Grows unicast ports IsCounted r r' base n) {P : UInt16 × MessageImpl → Prop}
    (hall : ∀ p ∈ r.all, P p) (hback : P r'.back) : ∀ p ∈ r'.all, P p := fun p hp =>
  (h.mem_all_iff hp).elim (hall p) fun heq => heq ▸ hback

/-- What the last message gets in bytes. -/
lemma contentSize (h : Grows unicast ports IsCounted r r' base n) :
    ∃ d, r'.back.2.options.length = base.2.options.length + d ∧ (ports = [] → d = 0) ∧
      r'.back.2.contentSize = base.2.contentSize + 16 * n + unicast.optionSize * d := by
  obtain ⟨created, hcreated, hlength, hsize⟩ := addPorts_eq_append unicast base.2.options ports
  have hsum : (created.map fun o => o.bytes.length).sum = unicast.optionSize * created.length := by
    rw [List.map_congr_left hsize, List.map_const', List.sum_replicate_nat, Nat.mul_comm]
  refine ⟨created.length, ?_, fun hports => ?_, ?_⟩
  · rw [h.options, hcreated, List.length_append]
  · rw [hports] at hlength
    exact Nat.le_zero.mp hlength
  · unfold MessageImpl.contentSize
    rw [h.options, hcreated, List.map_append, List.sum_append, hsum, h.entries, Nat.add_mul,
      MessageImpl.sdEntrySize]
    omega

/-- The last message after a renewal is within its size. -/
lemma isWithin (h : Grows unicast ports IsCounted r r' base n) (hbase : IsWithin unicast base) :
    IsWithin unicast r'.back := by
  obtain ⟨d, hlength, -, hcontent⟩ := h.contentSize
  refine ⟨h.size_le, ?_⟩
  have hbase := hbase.2
  rw [hlength, hcontent]
  by_cases hc : IsCounted
  · have hsize := h.size_of_counted hc
    rw [optionSize_eq] at *
    split_ifs at * <;> omega
  · have hsize := h.size_of_not_counted hc
    rw [optionSize_eq] at *
    split_ifs at * <;> omega

/-- A size that is too small stays too small. -/
lemma isShort (h : Grows unicast ports IsCounted r r' base n) (hbase : IsShort base) :
    IsShort r'.back := by
  obtain ⟨d, hlength, -, hcontent⟩ := h.contentSize
  unfold IsShort at *
  rw [hcontent]
  by_cases hc : IsCounted
  · have hsize := h.size_of_counted hc
    rw [optionSize_eq] at *
    split_ifs at * <;> omega
  · have hsize := h.size_of_not_counted hc
    omega

/-- The last message after a renewal has its exact size, if every entry is counted. -/
lemma isExact (h : Grows unicast ports IsCounted r r' base n) (hbase : IsExact unicast base)
    (hcounted : ports ≠ [] → IsCounted ∧ ¬ unicast.isV6) : IsExact unicast r'.back := by
  obtain ⟨d, hlength, hnil, hcontent⟩ := h.contentSize
  refine ⟨h.isWithin hbase.1, ?_⟩
  have hbase := hbase.2
  have h : Grows unicast ports True r r' base n :=
    h.congr fun hports => iff_true_intro (hcounted hports).1
  have hsize := h.size_of_counted trivial
  rw [hcontent]
  by_cases hports : ports = []
  · have hn := h.eq_zero_iff.mpr hports
    have hd := hnil hports
    subst hn hd
    omega
  · have hoption : unicast.optionSize = 12 := by rw [optionSize_eq, if_neg (hcounted hports).2]
    rw [hoption]
    omega

/-- If something is not counted or is larger, then the size is too small. -/
lemma isShort_of_not_counted (h : Grows unicast ports IsCounted r r' base n)
    (hbase : IsExact unicast base) (hports : ports ≠ []) (hcounted : IsCounted → unicast.isV6) :
    IsShort r'.back := by
  obtain ⟨d, hlength, -, hcontent⟩ := h.contentSize
  obtain ⟨⟨-, hwithin⟩, hexact⟩ := hbase
  have hn : n ≠ 0 := mt h.eq_zero_iff.mp hports
  unfold IsShort
  rw [hcontent]
  by_cases hc : IsCounted
  · have hsize := h.size_of_counted hc
    have hoption : unicast.optionSize = 24 := by rw [optionSize_eq, if_pos (hcounted hc)]
    have hpos : 0 < r'.back.2.options.length := by
      rw [h.options]
      exact List.length_pos_iff.mpr (addPorts_ne_nil hports)
    rw [hoption] at hwithin ⊢
    omega
  · have hsize := h.size_of_not_counted hc
    omega

/-- A message whose size is too small stays in the vector. -/
lemma exists_isShort (h : Grows unicast ports IsCounted r r' base n) (hshort : ∃ p ∈ r.all, IsShort p) :
    ∃ p ∈ r'.all, IsShort p := by
  obtain ⟨p, hp, hshort⟩ := hshort
  have hback : r'.back ∈ r'.all := List.mem_append_right _ (List.mem_singleton_self _)
  rcases h.isLast with ⟨hfront, hbase⟩ | ⟨hfront, -⟩
  · rcases List.mem_append.mp hp with hp | hp
    · exact ⟨p, List.mem_append_left _ (hfront ▸ hp), hshort⟩
    · rw [List.mem_singleton.mp hp, ← hbase] at hshort
      exact ⟨r'.back, hback, h.isShort hshort⟩
  · exact ⟨p, List.mem_append_left _ (hfront ▸ hp), hshort⟩

end Grows

end Sizes

/-! ## All subscriptions of an instance -/

namespace Resubscribes

section RenewAll

variable {Address : Type} {unicast : IpAddress} {env : RenewEnv Address} {offerType : RemoteOfferType}
variable {service inst : UInt16} {r : Resubscribes}

/-- The renewal of all subscriptions as a run. -/
lemma renewAll_fst (es : List (SubscribedEntry Address)) (r : Resubscribes) :
    (r.renewAll unicast env offerType service inst es).1 =
      Runs.run (fun r e => (r.renew unicast env offerType service inst e).1) r es := by
  induction es generalizing r with
  | nil => rfl
  | cons e es ih => exact ih _

/-- The last message is no larger than a UDP message. -/
lemma back_le (h : ∀ p ∈ r.all, IsWithin unicast p) : r.back.1.toNat ≤ maxUdpMessageSize :=
  (h _ (List.mem_append_right _ (List.mem_singleton_self _))).1

variable (e : SubscribedEntry Address)

/-- A renewal keeps all messages within their sizes. -/
lemma isWithin_renew (h : ∀ p ∈ r.all, IsWithin unicast p) :
    ∀ p ∈ (r.renew unicast env offerType service inst e).1.all, IsWithin unicast p := by
  obtain ⟨ports, IsCounted, base, n, hgrows, -⟩ :=
    renew_grows unicast offerType env service inst e (back_le h)
  exact hgrows.forall_all h (hgrows.isWithin (hgrows.of_base h (isExact_createMessage unicast).1))

/-- The sizes stay right if the subscription meets the condition. -/
lemma isExact_renew (h : ∀ p ∈ r.all, IsExact unicast p) (he : e.IsCounted unicast env offerType) :
    ∀ p ∈ (r.renew unicast env offerType service inst e).1.all, IsExact unicast p := by
  obtain ⟨ports, IsCounted, base, n, hgrows, hiff⟩ :=
    renew_grows unicast offerType env service inst e (back_le fun p hp => (h p hp).1)
  have hbase := hgrows.of_base h (isExact_createMessage unicast)
  exact hgrows.forall_all h (hgrows.isExact hbase (hiff.mp he))

/-- A size is too small if the subscription does not meet the condition. -/
lemma exists_isShort_renew (h : ∀ p ∈ r.all, IsExact unicast p)
    (he : ¬ e.IsCounted unicast env offerType) :
    ∃ p ∈ (r.renew unicast env offerType service inst e).1.all, IsShort p := by
  obtain ⟨ports, IsCounted, base, n, hgrows, hiff⟩ :=
    renew_grows unicast offerType env service inst e (back_le fun p hp => (h p hp).1)
  have hbase := hgrows.of_base h (isExact_createMessage unicast)
  obtain ⟨hports, hcounted⟩ := Classical.not_imp.mp (mt hiff.mpr he)
  refine ⟨_, List.mem_append_right _ (List.mem_singleton_self _),
    hgrows.isShort_of_not_counted hbase hports fun hc => ?_⟩
  exact not_not.mp fun hv6 => hcounted ⟨hc, hv6⟩

/-- Renewals that are counted keep the sizes exact. -/
lemma isExact_renewAll {es : List (SubscribedEntry Address)} (h : ∀ p ∈ r.all, IsExact unicast p)
    (hes : ∀ e ∈ es, e.IsCounted unicast env offerType) :
    ∀ p ∈ (r.renewAll unicast env offerType service inst es).1.all, IsExact unicast p := by
  rw [renewAll_fst]
  exact Runs.inv_run (I := fun r : Resubscribes => ∀ p ∈ r.all, IsExact unicast p)
    (P := fun e : SubscribedEntry Address => e.IsCounted unicast env offerType)
    (fun h he => isExact_renew _ h he) h hes

/-- The later subscriptions do not make up for a size that is too small.

**Proof sketch.** Induction on the subscriptions. The first one that does not meet the condition makes a
size too small, and that is kept by the others. -/
lemma exists_isShort_renewAll {es : List (SubscribedEntry Address)} (h : ∀ p ∈ r.all, IsExact unicast p)
    (hes : ¬ ∀ e ∈ es, e.IsCounted unicast env offerType) :
    ∃ p ∈ (r.renewAll unicast env offerType service inst es).1.all, IsShort p := by
  rw [renewAll_fst]
  induction es generalizing r with
  | nil => exact absurd (fun e he => absurd he List.not_mem_nil) hes
  | cons e es ih =>
    by_cases he : e.IsCounted unicast env offerType
    · exact ih (isExact_renew e h he) fun hes' => hes (List.forall_mem_cons.mpr ⟨he, hes'⟩)
    · refine (Runs.inv_run (I := fun r : Resubscribes =>
        (∀ p ∈ r.all, IsWithin unicast p) ∧ ∃ p ∈ r.all, IsShort p) (P := fun _ => True)
        (fun {r e} hr _ => ⟨isWithin_renew e hr.1, ?_⟩)
        ⟨isWithin_renew e fun p hp => (h p hp).1, exists_isShort_renew e h he⟩ fun _ _ => trivial).2
      obtain ⟨ports, IsCounted, base, n, hgrows, -⟩ :=
        renew_grows unicast offerType env service inst e (back_le hr.1)
      exact hgrows.exists_isShort hr.2

/-- The sizes are those of the messages, and none is too large. -/
lemma accounted_of_isExact (h : ∀ p ∈ r.all, IsExact unicast p) : r.Accounted := fun p hp =>
  ⟨(h p hp).2, (h p hp).2 ▸ (h p hp).1.1⟩

/-- A message that is larger than its size is not accounted for. -/
lemma not_accounted_of_isShort (h : ∃ p ∈ r.all, IsShort p) : ¬ r.Accounted := by
  obtain ⟨p, hp, hshort⟩ := h
  exact fun haccounted => Nat.ne_of_lt hshort (haccounted p hp).1

end RenewAll

end Resubscribes

/-! ## Main result -/

namespace Resubscribing

variable {Address : Type} (unicast : IpAddress)

/-- All subscriptions that an entry renews meet the condition. -/
def IsCounted (x : Resubscribing Address) : ResubscribeEvent Address → Prop
  | .offer env service inst endpoints =>
    ∀ e ∈ x.subscribed.entries service inst, e.IsCounted unicast env endpoints.offerType
  | .others _ => True

/-- **For a message with any number of offers and any table of subscriptions, the sizes in
`_resubscribes` are those of the messages, and no message is too large for a datagram, exactly if no
subscription is half renewed and no option for an IPv6 address is inserted.**

**Proof sketch.** An insertion is described by the number of entries and the ports of the options that
it puts into a message, and whether they are counted. As long as the sizes are right, the condition says
that they are counted and that options have the size that is counted for them; so the sizes stay right,
and what is reserved bounds them. If a subscription does not meet the condition, then a size becomes too
small, and that remains so. -/
theorem accounted_along_iff (subscribed : Subscribed Address)
    (events : List (ResubscribeEvent Address)) :
    Runs.Along (step unicast) (fun x event => (x.step unicast event).resubscribes.Accounted)
        ⟨subscribed, .init⟩ events ↔
      Runs.Along (step unicast) (fun x event => x.IsCounted unicast event)
        ⟨subscribed, .init⟩ events := by
  refine Runs.along_iff (I := fun x => ∀ p ∈ x.resubscribes.all, IsExact unicast p)
    (E := fun _ _ => True) (fun {x event} hx _ hgood => ?_) (fun {x event} hx _ hbad => ?_) ?_
    (Runs.along_of_forall fun _ _ => trivial)
  · have hexact : ∀ p ∈ (x.step unicast event).resubscribes.all, IsExact unicast p := by
      cases event with
      | offer env service inst endpoints => exact Resubscribes.isExact_renewAll hx hgood
      | others subscribed => exact hx
    exact ⟨hexact, Resubscribes.accounted_of_isExact hexact⟩
  · cases event with
    | offer env service inst endpoints =>
      exact Resubscribes.not_accounted_of_isShort (Resubscribes.exists_isShort_renewAll hx hbad)
    | others subscribed => exact absurd trivial hbad
  · intro p hp
    rw [List.mem_singleton.mp hp]
    exact isExact_createMessage unicast

/-- A connected endpoint. -/
def endpoint (localPort : UInt16) : Option (RemoteEndpoint Unit) :=
  some { remoteAddress := some (), isConnected := true, localPort }

/-- A table with one subscription, which is acknowledged. -/
def oneSubscribed : Subscribed Unit :=
  Subscribed.setClients (fun _ _ => ∅) 1 1 1 (Std.TreeMap.empty.insert routingClient
    { major := 1, ttl := 3, reliable := none, unreliable := none, isAcknowledged := true,
      tcpConnectionEstablished := true, udpConnectionEstablished := true,
      subscriptionType := .reliableAndUnreliable, counter := 0 })

/-- An offer of a service over UDP, and over TCP if it has a reliable port. The subscriber has a reliable
port, and an unreliable one unless it is zero. -/
def offerEvent (address : IpAddress) (reliablePort localPort : UInt16) : ResubscribeEvent Unit :=
  .offer ⟨fun _ isReliable => endpoint (if isReliable then 40000 else localPort), fun _ _ => true⟩ 1 1
    ⟨address, reliablePort, address, 30509⟩

/-- The size is too small if the unreliable endpoint has no port, and if the address is an IPv6 one. -/
theorem not_accounted_along :
    (let address := .v4 ⟨[192, 168, 0, 1], rfl⟩
     ¬ Runs.Along (step address) (fun x event => (x.step address event).resubscribes.Accounted)
      ⟨oneSubscribed, .init⟩ [offerEvent address 30510 0]) ∧
    (let address := .v6 (List.Vector.replicate 16 1)
     ¬ Runs.Along (step address) (fun x event => (x.step address event).resubscribes.Accounted)
      ⟨oneSubscribed, .init⟩ [offerEvent address illegalPort 40000]) :=
  ⟨fun h => absurd h.1 (by decide +kernel), fun h => absurd h.1 (by decide +kernel)⟩

end Resubscribing

end Vsomeip.Sd
