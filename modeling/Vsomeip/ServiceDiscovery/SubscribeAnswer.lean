import Vsomeip.Lib.Runs
import Vsomeip.Routing.RemoteSubscription
import Vsomeip.ServiceDiscovery.Message

set_option relaxedAutoImplicit false
set_option autoImplicit false

/-!
# Answers to Subscribe entries

`service_discovery_impl::on_message` answers the Subscribe entries of an SD message with one response.
It counts the answers that the response requires and those that it contains, and sends it when all
are contained: at once, or when the routing manager has answered the last pending subscription.

The required answers are counted from the options that the entries refer to, before the entries are
looked at. An entry that is refused gets one answer whatever it refers to, so the two counts meet only
if what the checks take back agrees with what the options have added.

## Main definitions

* `Vsomeip.Sd.Received` — a message, with what the routing manager says to its entries.
* `Vsomeip.Sd.Received.processEventgroupentry` — what the checks do with the response.
* `Vsomeip.Sd.Received.onMessage`, `Vsomeip.Sd.Answering.remoteSubscriptionAcknowledge` — the response
  at the end of `on_message`, and after a later answer.
* `Vsomeip.Sd.Received.Answered` — the response is sent once, with an answer to each Subscribe.
* `Vsomeip.Sd.Received.Balanced` — the calls of the entries contain as many answers as they require.

## Main results

* `Vsomeip.Sd.Received.answered_iff_balanced` — these are the same.
-/

namespace Vsomeip.Sd

/-- `ILLEGAL_PORT`, the port of an endpoint that is not there. -/
def illegalPort : UInt16 := 0xFFFF

/-- `E_OK`. -/
def returnCode : UInt8 := 0x00

/-- An endpoint of a Subscribe entry. -/
structure OptionEndpoint where
  address : List UInt8
  port : UInt16
  isReliable : Bool
deriving DecidableEq

/-- No endpoint. -/
def OptionEndpoint.illegal : OptionEndpoint := ⟨[], illegalPort, false⟩

/-- An eventgroup that `find_eventgroup` finds: its version, and `get_reliability`. -/
structure EventgroupView where
  major : UInt8
  hasReliableEvents : Bool
  hasUnreliableEvents : Bool

/-- What the routing manager says to an entry: the eventgroup, whether an endpoint is connected, and
the state and the client that the callback of `on_remote_subscription` gets for each target. -/
structure HostView where
  findEventgroup : Option EventgroupView
  isTcpConnected : OptionEndpoint → Bool
  onRemoteSubscription : Fin 2 → RemoteSubscriptionState × UInt16

/-- The answers that an entry requires when it is read: one for each option that a Subscribe refers to. -/
def Entry.referencedAcks (entry : Entry) : UInt8 :=
  if entry.base.type = .subscribeEventgroup ∧ entry.base.ttl > 0 then
    entry.base.numOptions1 + entry.base.numOptions2
  else 0

/-- The required answers of a message are those of its entries. -/
def MessageImpl.Counted (m : MessageImpl) : Prop :=
  m.numberRequiredAcks = (m.entries.map Entry.referencedAcks).sum

/-- A received message, whether its destination is a multicast address, the own unicast address, and
what the routing manager says to the entry at an index. -/
structure Received where
  message : MessageImpl
  counted : message.Counted
  isMulticast : Bool
  unicastAddress : Option (List.Vector UInt8 4)
  host : ℕ → HostView

/-- What is done with the response for an entry. A pending subscription has the client of the
subscriber. -/
inductive ResponseCall
  | increaseNumberRequiredAcks
  | decreaseNumberRequiredAcks
  | clearNumberRequiredAcks
  | insertSubscriptionAck
  | insertSubscriptionNack
  | setPending (client : UInt16)
deriving DecidableEq

/-! ## The checks -/

/-- `service_discovery_impl::check_ipv4_address`. -/
def checkIpv4Address (unicastAddress : Option (List.Vector UInt8 4))
    (address : List.Vector UInt8 4) : Bool :=
  match unicastAddress with
  | none => true
  | some unicast => unicast != address && unicast.toList.take 3 == address.toList.take 3

namespace EventgroupentryImpl

/-- The entry is refused if it is a Subscribe and not a StopSubscribe. -/
def nackUnlessStop (e : EventgroupentryImpl) : List ResponseCall :=
  if e.ttl > 0 then [.insertSubscriptionNack] else []

/-- What `handle_eventgroup_subscription` sets `reliablility_nack` to. -/
def reliabilityNack (view : HostView) (first second : OptionEndpoint) : Bool :=
  let hasReliableEvents := view.findEventgroup.any (·.hasReliableEvents)
  let hasUnreliableEvents := view.findEventgroup.any (·.hasUnreliableEvents)
  if hasReliableEvents && !hasUnreliableEvents then
    !(first.port != illegalPort && first.isReliable) &&
      !(second.port != illegalPort && second.isReliable)
  else if !hasReliableEvents && hasUnreliableEvents then
    !(first.port != illegalPort && !first.isReliable) &&
      !(second.port != illegalPort && !second.isReliable)
  else if hasReliableEvents && hasUnreliableEvents then
    first.port == illegalPort || second.port == illegalPort ||
      first.isReliable == second.isReliable
  else false

/-- The endpoint is a TCP endpoint that is not connected. -/
def isNotEstablished (e : EventgroupentryImpl) (view : HostView) (endpoint : OptionEndpoint) : Bool :=
  endpoint.port != illegalPort && endpoint.isReliable && e.ttl > 0 && !view.isTcpConnected endpoint

/-- What the callback of `on_remote_subscription` does for a target. -/
def subscribeTarget (view : HostView) (i : Fin 2) (endpoint : OptionEndpoint) : List ResponseCall :=
  if endpoint.port = illegalPort then []
  else match view.onRemoteSubscription i with
    | (.acked, _) => [.insertSubscriptionAck]
    | (.nacked, _) => [.insertSubscriptionNack]
    | (.error, _) => [.insertSubscriptionNack]
    | (.pending, client) => [.setPending client]

/-- `service_discovery_impl::handle_eventgroup_subscription`. -/
def handleEventgroupSubscription (e : EventgroupentryImpl) (view : HostView)
    (first second : OptionEndpoint) : List ResponseCall :=
  if reliabilityNack view first second && e.ttl > 0 then [.insertSubscriptionNack]
  else match view.findEventgroup with
    | none => e.nackUnlessStop
    | some info =>
      if e.majorVersion ≠ info.major then e.nackUnlessStop
      else if e.isNotEstablished view first then
        .insertSubscriptionNack ::
          if second.port ≠ illegalPort then [.decreaseNumberRequiredAcks] else []
      else if e.isNotEstablished view second then
        .insertSubscriptionNack ::
          if first.port ≠ illegalPort then [.decreaseNumberRequiredAcks] else []
      else if e.ttl = 0 then []
      else subscribeTarget view 0 first ++ subscribeTarget view 1 second

end EventgroupentryImpl

namespace Received

/-- An endpoint that is read goes to the first place that is free. -/
def placeEndpoint (first second endpoint : OptionEndpoint) : OptionEndpoint × OptionEndpoint :=
  if first.port = illegalPort then (endpoint, second)
  else if second.port = illegalPort then (first, endpoint)
  else (first, second)

/-- What `process_eventgroupentry` does for an option of the entry, with the endpoints read so far:
the endpoints afterwards, or `none` if the entry is done with. -/
def readOption (r : Received) (e : EventgroupentryImpl) (first second : OptionEndpoint)
    (option : SdOption) : List ResponseCall × Option (OptionEndpoint × OptionEndpoint) :=
  match option.base.type, option with
  | .ip4Endpoint, .ipv4 o =>
    if e.type = .subscribeEventgroup then
      if o.protocol = .unknown then (e.nackUnlessStop, none)
      else if (first.port = illegalPort ∨ second.port = illegalPort) ∧
          (!checkIpv4Address r.unicastAddress o.address || o.port == 0) then (e.nackUnlessStop, none)
      else ([], placeEndpoint first second ⟨o.address.toList, o.port, o.protocol = .tcp⟩)
    else ([], some (first, second))
  | .ip6Endpoint, .ipv6 o =>
    if e.type = .subscribeEventgroup then
      if o.protocol = .unknown then (e.nackUnlessStop, none)
      else ([], placeEndpoint first second ⟨o.address.toList, o.port, o.protocol = .tcp⟩)
    else ([], some (first, second))
  | .configuration, _ => ([.decreaseNumberRequiredAcks], some (first, second))
  | .loadBalancing, _ | .protection, _ | .unknown, _ =>
    if e.ttl > 0 then ([.decreaseNumberRequiredAcks, .insertSubscriptionNack], none)
    else ([], some (first, second))
  | _, _ => ([], some (first, second))

/-- The loop over the options of an entry. -/
def readOptions (r : Received) (e : EventgroupentryImpl) :
    OptionEndpoint → OptionEndpoint → List UInt8 →
      List ResponseCall × Option (OptionEndpoint × OptionEndpoint)
  | first, second, [] => ([], some (first, second))
  | first, second, index :: indices =>
    match r.message.options[index.toNat]? with
    | none => (if e.type = .subscribeEventgroup then e.nackUnlessStop else [], none)
    | some option =>
      match r.readOption e first second option with
      | (calls, none) => (calls, none)
      | (calls, some (first, second)) =>
        let (calls', endpoints) := r.readOptions e first second indices
        (calls ++ calls', endpoints)

/-- `service_discovery_impl::process_eventgroupentry`: what it does with the response. -/
def processEventgroupentry (r : Received) (view : HostView) (e : EventgroupentryImpl) :
    List ResponseCall :=
  let isSubscribe := e.type = .subscribeEventgroup
  if r.message.header.code ≠ returnCode then e.nackUnlessStop
  else if isSubscribe ∧ r.isMulticast then e.nackUnlessStop
  else if isSubscribe ∧ e.numOptions1 = 0 ∧ e.numOptions2 = 0 then
    if e.ttl > 0 then [.increaseNumberRequiredAcks, .insertSubscriptionNack] else []
  else if isSubscribe ∧ r.message.optionsLength < 12 then e.nackUnlessStop
  else if isSubscribe ∧ r.message.options.length < e.numOptions1.toNat + e.numOptions2.toNat then
    if e.ttl > 0 then [.clearNumberRequiredAcks, .insertSubscriptionNack] else []
  else if isSubscribe ∧ r.message.header.length < r.message.getLength ∧ e.ttl > 0 then []
  else match r.readOptions e .illegal .illegal (e.options1 ++ e.options2) with
    | (calls, none) => calls
    | (calls, some (first, second)) =>
      calls ++ if isSubscribe then e.handleEventgroupSubscription view first second else []

/-- What the loop over the entries does with the response. -/
def calls (r : Received) : List (EventgroupentryImpl × ResponseCall) :=
  r.message.entries.zipIdx.flatMap fun
    | (.service _, _) => []
    | (.eventgroup e, i) => (r.processEventgroupentry (r.host i) e).map (e, ·)

end Received

/-! ## The response -/

/-- What an answer and the entry that it answers have in common. -/
def EventgroupentryImpl.subscription (e : EventgroupentryImpl) :
    UInt16 × UInt16 × UInt16 × UInt8 × UInt16 × UInt8 :=
  (e.service, e.instance_, e.eventgroup, e.majorVersion, e.reserved, e.counter)

/-- The answer to an entry, with the ttl of the entry for an ACK and 0 for a NACK. -/
def EventgroupentryImpl.answer (e : EventgroupentryImpl) (ttl : UInt32) : EventgroupentryImpl :=
  { EntryImpl.init with
    type := .subscribeEventgroupAck
    service := e.service
    instance_ := e.instance_
    eventgroup := e.eventgroup
    majorVersion := e.majorVersion
    reserved := e.reserved
    counter := e.counter
    ttl }

/-- An answer is about the subscription that it answers. -/
@[simp]
lemma EventgroupentryImpl.subscription_answer (e : EventgroupentryImpl) (ttl : UInt32) :
    (e.answer ttl).subscription = e.subscription :=
  rfl

/-- The members of the response that are read: `number_required_acks_`, `number_contained_acks_` and
`entries_`. -/
structure Response where
  numberRequiredAcks : UInt8
  numberContainedAcks : UInt8
  entries : List EventgroupentryImpl
deriving DecidableEq

namespace Response

/-- `message_impl::all_required_acks_contained`. -/
def allRequiredAcksContained (m : Response) : Bool :=
  m.numberContainedAcks ≥ m.numberRequiredAcks

/-- `service_discovery_impl::insert_subscription_ack`. An ACK that is there already is counted once
more. -/
def insertSubscriptionAck (m : Response) (e : EventgroupentryImpl) : Response :=
  { m with
    numberContainedAcks := m.numberContainedAcks + 1
    entries :=
      if m.entries.any fun a => a.type == .subscribeEventgroupAck &&
          a.subscription == e.subscription && a.ttl == e.ttl
      then m.entries else m.entries ++ [e.answer e.ttl] }

/-- `service_discovery_impl::insert_subscription_nack`. -/
def insertSubscriptionNack (m : Response) (e : EventgroupentryImpl) : Response :=
  { m with
    numberContainedAcks := m.numberContainedAcks + 1
    entries := m.entries ++ [e.answer 0] }

end Response

/-- A `subscriber_t` of `pending_remote_subscriptions_` with the identifier of the message: the entry,
and the client under which it is found. -/
structure PendingAnswer where
  entry : EventgroupentryImpl
  client : UInt16
deriving DecidableEq

/-- Where it is found. -/
def PendingAnswer.key (p : PendingAnswer) : UInt16 × UInt16 × UInt16 × UInt16 :=
  (p.entry.service, p.entry.instance_, p.entry.eventgroup, p.client)

/-- The response to a message, the subscriptions of the message that are pending, and the entries of
the responses that were sent. -/
structure Answering where
  response : Response
  pending : List PendingAnswer
  sent : List (List EventgroupentryImpl)

namespace Answering

/-- A call for an entry. -/
def call (s : Answering) : EventgroupentryImpl × ResponseCall → Answering
  | (_, .increaseNumberRequiredAcks) =>
    { s with
      response := { s.response with numberRequiredAcks := s.response.numberRequiredAcks + 1 } }
  | (_, .decreaseNumberRequiredAcks) =>
    { s with
      response := { s.response with numberRequiredAcks := s.response.numberRequiredAcks - 1 } }
  | (_, .clearNumberRequiredAcks) =>
    { s with response := { s.response with numberRequiredAcks := 0 } }
  | (e, .insertSubscriptionAck) => { s with response := s.response.insertSubscriptionAck e }
  | (e, .insertSubscriptionNack) => { s with response := s.response.insertSubscriptionNack e }
  | (e, .setPending client) => { s with pending := s.pending ++ [⟨e, client⟩] }

/-- The response is sent if it is complete, and its required answers are set to 0xFF. -/
def sendIfContained (s : Answering) : Answering :=
  if s.response.allRequiredAcksContained then
    { s with
      response := { s.response with numberRequiredAcks := 0xFF }
      sent := s.sent ++ [s.response.entries] }
  else s

/-- `service_discovery_impl::remote_subscription_acknowledge` with the identifier of the message. -/
def remoteSubscriptionAcknowledge (s : Answering)
    (answer : (UInt16 × UInt16 × UInt16 × UInt16) × Bool) : Answering :=
  match s.pending.find? (·.key = answer.1) with
  | none => s
  | some p =>
    sendIfContained
      { s with
        pending := s.pending.eraseP (·.key = answer.1)
        response :=
          if answer.2 then s.response.insertSubscriptionAck p.entry
          else s.response.insertSubscriptionNack p.entry }

end Answering

namespace Received

/-- The Subscribe entries of the message. -/
def subscribes (r : Received) : List EventgroupentryImpl :=
  r.message.entries.filterMap fun
    | .service _ => none
    | .eventgroup e => if e.type = .subscribeEventgroup ∧ e.ttl > 0 then some e else none

/-- The response after the loop over the entries. -/
def processEntries (r : Received) : Answering :=
  r.calls.foldl Answering.call
    { response :=
        { numberRequiredAcks := r.message.numberRequiredAcks, numberContainedAcks := 0, entries := [] }
      pending := []
      sent := [] }

/-- `service_discovery_impl::on_message`. -/
def onMessage (r : Received) : Answering :=
  let s := r.processEntries
  if r.message.numberRequiredAcks ≠ 0 ∨ s.response.numberRequiredAcks > 0 then s.sendIfContained
  else s

/-- The entries of a response have an answer to an entry. -/
def HasAnswer (entries : List EventgroupentryImpl) (e : EventgroupentryImpl) : Prop :=
  ∃ a ∈ entries, a.type = .subscribeEventgroupAck ∧ a.subscription = e.subscription

/-- The response to a message with Subscribe entries is sent once, when all its subscriptions that
were pending have been answered in any order, and it has an answer to each of the entries. -/
def Answered (r : Received) : Prop :=
  r.subscribes ≠ [] → ∀ answers : List ((UInt16 × UInt16 × UInt16 × UInt16) × Bool),
    (answers.map Prod.fst).Perm (r.onMessage.pending.map PendingAnswer.key) →
    (∀ n < answers.length,
      (Runs.run Answering.remoteSubscriptionAcknowledge r.onMessage (answers.take n)).sent = []) ∧
    ∃ entries, (Runs.run Answering.remoteSubscriptionAcknowledge r.onMessage answers).sent =
      [entries] ∧ ∀ e ∈ r.subscribes, HasAnswer entries e

/-! ## What the entries have called for -/

/-- What a call does with the number of required answers. -/
def required (n : UInt8) : EventgroupentryImpl × ResponseCall → UInt8
  | (_, .increaseNumberRequiredAcks) => n + 1
  | (_, .decreaseNumberRequiredAcks) => n - 1
  | (_, .clearNumberRequiredAcks) => 0
  | (_, .insertSubscriptionAck) => n
  | (_, .insertSubscriptionNack) => n
  | (_, .setPending _) => n

/-- The call answers an entry. -/
def answersAtOnce (c : EventgroupentryImpl × ResponseCall) : Bool :=
  c.2 == .insertSubscriptionAck || c.2 == .insertSubscriptionNack

/-- The pending subscription of a call. -/
def pendingAnswer : EventgroupentryImpl × ResponseCall → Option PendingAnswer
  | (e, .setPending client) => some ⟨e, client⟩
  | (_, .increaseNumberRequiredAcks) => none
  | (_, .decreaseNumberRequiredAcks) => none
  | (_, .clearNumberRequiredAcks) => none
  | (_, .insertSubscriptionAck) => none
  | (_, .insertSubscriptionNack) => none

/-- The calls answer each Subscribe or leave it pending. If some are pending, the answers that they
require are as many as there are at once and later; if none is, there are enough at once. -/
def Balanced (r : Received) : Prop :=
  r.subscribes ≠ [] →
    let requiredAcks := r.calls.foldl required r.message.numberRequiredAcks
    let atOnce := r.calls.countP answersAtOnce % 256
    let pending := (r.calls.filterMap pendingAnswer).length
    (∀ e ∈ r.subscribes, ∃ c ∈ r.calls,
      (answersAtOnce c ∨ (pendingAnswer c).isSome) ∧ c.1.subscription = e.subscription) ∧
    if pending = 0 then
      (r.message.numberRequiredAcks ≠ 0 ∨ requiredAcks ≠ 0) ∧ requiredAcks.toNat ≤ atOnce
    else
      atOnce + pending = requiredAcks.toNat ∨
        r.message.numberRequiredAcks = 0 ∧ requiredAcks = 0 ∧ pending = 1

end Received

/-! ## Counting the answers -/

section Response

variable {m : Response} {e e' : EventgroupentryImpl}

/-- The answers in a response after a rejection is inserted. -/
lemma Response.hasAnswer_insertSubscriptionNack :
    Received.HasAnswer (m.insertSubscriptionNack e').entries e ↔
      Received.HasAnswer m.entries e ∨ e'.subscription = e.subscription := by
  constructor
  · rintro ⟨a, ha, htype, hsub⟩
    rcases List.mem_append.mp ha with ha | ha
    · exact .inl ⟨a, ha, htype, hsub⟩
    · rw [List.mem_singleton.mp ha, EventgroupentryImpl.subscription_answer] at hsub
      exact .inr hsub
  · rintro (⟨a, ha, h⟩ | h)
    · exact ⟨a, List.mem_append_left _ ha, h⟩
    · exact ⟨e'.answer 0, List.mem_append_right _ List.mem_cons_self, rfl, h⟩

/-- The answers in a response after an acknowledgement is inserted. -/
lemma Response.hasAnswer_insertSubscriptionAck :
    Received.HasAnswer (m.insertSubscriptionAck e').entries e ↔
      Received.HasAnswer m.entries e ∨ e'.subscription = e.subscription := by
  rw [insertSubscriptionAck]
  dsimp only
  split
  · rename_i hany
    obtain ⟨a, ha, hsame⟩ := List.any_eq_true.mp hany
    simp only [Bool.and_eq_true, beq_iff_eq] at hsame
    -- the ACK that is there already answers the entry
    refine ⟨.inl, fun h => h.elim id fun h => ?_⟩
    exact ⟨a, ha, hsame.1.1, hsame.1.2.trans h⟩
  · constructor
    · rintro ⟨a, ha, htype, hsub⟩
      rcases List.mem_append.mp ha with ha | ha
      · exact .inl ⟨a, ha, htype, hsub⟩
      · rw [List.mem_singleton.mp ha, EventgroupentryImpl.subscription_answer] at hsub
        exact .inr hsub
    · rintro (⟨a, ha, h⟩ | h)
      · exact ⟨a, List.mem_append_left _ ha, h⟩
      · exact ⟨e'.answer e'.ttl, List.mem_append_right _ List.mem_cons_self, rfl, h⟩

end Response

namespace Answering

/-- The entry is answered or a subscription for it is pending. -/
def Covers (s : Answering) (e : EventgroupentryImpl) : Prop :=
  Received.HasAnswer s.response.entries e ∨ ∃ p ∈ s.pending, p.entry.subscription = e.subscription

section Calls

variable {s : Answering} {c : EventgroupentryImpl × ResponseCall}
  {cs : List (EventgroupentryImpl × ResponseCall)} {e : EventgroupentryImpl}

/-- The required acknowledgements after some calls. -/
lemma numberRequiredAcks_foldl : (cs.foldl call s).response.numberRequiredAcks =
    cs.foldl Received.required s.response.numberRequiredAcks := by
  induction cs generalizing s with
  | nil => rfl
  | cons c cs ih =>
    rw [List.foldl_cons, List.foldl_cons, ih]
    congr 1
    obtain ⟨e, call⟩ := c
    cases call <;> rfl

/-- The contained acknowledgements after some calls, counted with 8 bits. -/
lemma numberContainedAcks_foldl : (cs.foldl call s).response.numberContainedAcks.toNat =
    (s.response.numberContainedAcks.toNat + cs.countP Received.answersAtOnce) % 256 := by
  induction cs generalizing s with
  | nil => exact (Nat.mod_eq_of_lt s.response.numberContainedAcks.toNat_lt).symm
  | cons c cs ih =>
    have hone : (s.call c).response.numberContainedAcks.toNat =
        (s.response.numberContainedAcks.toNat + if Received.answersAtOnce c then 1 else 0) % 256 := by
      have hlt := s.response.numberContainedAcks.toNat_lt
      obtain ⟨e, call⟩ := c
      cases call with
      | insertSubscriptionAck => exact UInt8.toNat_add ..
      | insertSubscriptionNack => exact UInt8.toNat_add ..
      | _ => exact (Nat.mod_eq_of_lt hlt).symm
    rw [List.foldl_cons, ih, hone, Nat.mod_add_mod, List.countP_cons]
    congr 1
    omega

/-- The subscriptions that wait for the host after some calls. -/
lemma pending_foldl : (cs.foldl call s).pending =
    s.pending ++ cs.filterMap Received.pendingAnswer := by
  induction cs generalizing s with
  | nil => exact (List.append_nil _).symm
  | cons c cs ih =>
    obtain ⟨e, call⟩ := c
    rw [List.foldl_cons, ih]
    cases call with
    | setPending client =>
      rw [List.filterMap_cons]
      exact List.append_assoc ..
    | _ => rfl

/-- The calls for the entries send nothing. -/
lemma sent_foldl : (cs.foldl call s).sent = s.sent := by
  induction cs generalizing s with
  | nil => rfl
  | cons c cs ih =>
    obtain ⟨e, call⟩ := c
    rw [List.foldl_cons, ih]
    cases call <;> rfl

/-- An entry is covered by a call that answers it or hands it to the host. -/
lemma covers_call : (s.call c).Covers e ↔ s.Covers e ∨
    (Received.answersAtOnce c ∨ (Received.pendingAnswer c).isSome) ∧
      c.1.subscription = e.subscription := by
  obtain ⟨e', call⟩ := c
  cases call with
  | insertSubscriptionAck =>
    change Received.HasAnswer (s.response.insertSubscriptionAck e').entries e ∨ _ ↔ _
    rw [Response.hasAnswer_insertSubscriptionAck, or_right_comm, Covers]
    simp [Received.answersAtOnce, call]
  | insertSubscriptionNack =>
    change Received.HasAnswer (s.response.insertSubscriptionNack e').entries e ∨ _ ↔ _
    rw [Response.hasAnswer_insertSubscriptionNack, or_right_comm, Covers]
    simp [Received.answersAtOnce, call]
  | setPending client =>
    simp [Covers, call, Received.pendingAnswer, or_and_right, exists_or, or_assoc]
  | _ => simp [Covers, call, Received.answersAtOnce, Received.pendingAnswer]

/-- The entries that are answered or pending after some calls. -/
lemma covers_foldl : (cs.foldl call s).Covers e ↔ s.Covers e ∨ ∃ c ∈ cs,
    (Received.answersAtOnce c ∨ (Received.pendingAnswer c).isSome) ∧
      c.1.subscription = e.subscription := by
  induction cs generalizing s with
  | nil => simp
  | cons c cs ih => rw [List.foldl_cons, ih, covers_call, List.exists_mem_cons_iff, or_assoc]

end Calls

section Acknowledge

variable {s : Answering} {e : EventgroupentryImpl} {key : UInt16 × UInt16 × UInt16 × UInt16} {b : Bool}
  {answers : List ((UInt16 × UInt16 × UInt16 × UInt16) × Bool)}

/-- **A pending subscription is answered.** One more answer is contained, what is pending is one
less, and the same entries are answered or pending. -/
lemma remoteSubscriptionAcknowledge_eq
    (hkeys : (((key, b) :: answers).map Prod.fst).Perm (s.pending.map PendingAnswer.key)) :
    ∃ s' : Answering, s.remoteSubscriptionAcknowledge (key, b) = s'.sendIfContained ∧
      s'.sent = s.sent ∧
      s'.response.numberRequiredAcks = s.response.numberRequiredAcks ∧
      s'.response.numberContainedAcks = s.response.numberContainedAcks + 1 ∧
      (answers.map Prod.fst).Perm (s'.pending.map PendingAnswer.key) ∧
      ∀ e, s'.Covers e ↔ s.Covers e := by
  obtain ⟨p, hp, hkey⟩ := List.mem_map.mp (hkeys.subset List.mem_cons_self)
  obtain ⟨q, before, after, hbefore, hq, hpending, herase⟩ :=
    List.exists_of_eraseP (p := fun p => decide (p.key = key)) hp (decide_eq_true hkey)
  have hfind : s.pending.find? (fun p => decide (p.key = key)) = some q := by
    rw [hpending, List.find?_append, List.find?_eq_none.mpr hbefore, Option.none_or,
      List.find?_cons, hq]
  have hq : q.key = key := of_decide_eq_true hq
  set response := if b then s.response.insertSubscriptionAck q.entry
    else s.response.insertSubscriptionNack q.entry with hresponse
  have hhas (e : EventgroupentryImpl) : Received.HasAnswer response.entries e ↔
      Received.HasAnswer s.response.entries e ∨ q.entry.subscription = e.subscription := by
    rw [hresponse]
    split
    · exact Response.hasAnswer_insertSubscriptionAck
    · exact Response.hasAnswer_insertSubscriptionNack
  refine ⟨{ s with pending := before ++ after, response }, ?_, rfl, ?_, ?_, ?_, fun e => ?_⟩
  · rw [remoteSubscriptionAcknowledge]
    dsimp only
    rw [hfind, herase]
  · rw [hresponse]
    split <;> rfl
  · rw [hresponse]
    split <;> rfl
  · -- the first subscription that is found has the key of the answer
    rw [hpending, List.map_append, List.map_cons, List.map_cons, hq] at hkeys
    rw [List.map_append]
    exact (hkeys.trans List.perm_middle).cons_inv
  · simp only [Covers, hhas, hpending, List.mem_append, List.mem_cons]
    constructor
    · rintro ((h | h) | ⟨p, hp, h⟩)
      · exact .inl h
      · exact .inr ⟨q, .inr (.inl rfl), h⟩
      · exact .inr ⟨p, hp.imp_right .inr, h⟩
    · rintro (h | ⟨p, hp | rfl | hp, h⟩)
      · exact .inl (.inl h)
      · exact .inr ⟨p, .inl hp, h⟩
      · exact .inl (.inr h)
      · exact .inr ⟨p, .inr hp, h⟩

/-- The response is sent once, after the last of some answers, with answers to some entries. -/
def SentOnce (s : Answering) (entries : List EventgroupentryImpl)
    (answers : List ((UInt16 × UInt16 × UInt16 × UInt16) × Bool)) : Prop :=
  (∀ n < answers.length,
    (Runs.run remoteSubscriptionAcknowledge s (answers.take n)).sent = []) ∧
  ∃ sent, (Runs.run remoteSubscriptionAcknowledge s answers).sent = [sent] ∧
    ∀ e ∈ entries, Received.HasAnswer sent e

variable {entries : List EventgroupentryImpl}

/-- Without further answers the response has been sent, once, with all its answers. -/
lemma sentOnce_nil : s.SentOnce entries [] ↔
    ∃ sent, s.sent = [sent] ∧ ∀ e ∈ entries, Received.HasAnswer sent e :=
  and_iff_right fun _ hn => absurd hn (Nat.not_lt_zero _)

/-- With a further answer nothing has been sent, and the response is sent after it. -/
lemma sentOnce_cons {a : (UInt16 × UInt16 × UInt16 × UInt16) × Bool} :
    s.SentOnce entries (a :: answers) ↔
      s.sent = [] ∧ (s.remoteSubscriptionAcknowledge a).SentOnce entries answers := by
  constructor
  · rintro ⟨hbefore, hlast⟩
    refine ⟨hbefore 0 (Nat.zero_lt_succ _), fun n hn => ?_, hlast⟩
    exact hbefore (n + 1) (Nat.succ_lt_succ hn)
  · rintro ⟨hfirst, hbefore, hlast⟩
    refine ⟨fun n hn => ?_, hlast⟩
    cases n with
    | zero => exact hfirst
    | succ n => exact hbefore n (Nat.lt_of_succ_lt_succ hn)

/-- When nothing is pending, the entries are answered. -/
lemma hasAnswer_iff_covers (hpending : s.pending = []) :
    Received.HasAnswer s.response.entries e ↔ s.Covers e := by
  simp [Covers, hpending]

/-- If the response is complete, it was sent at the right time exactly if nothing is pending. -/
lemma sentOnce_sendIfContained (hsent : s.sent = [])
    (hcontained : s.response.numberRequiredAcks ≤ s.response.numberContainedAcks)
    (hkeys : (answers.map Prod.fst).Perm (s.pending.map PendingAnswer.key)) :
    s.sendIfContained.SentOnce entries answers ↔ answers = [] ∧ ∀ e ∈ entries, s.Covers e := by
  have hsend : s.sendIfContained.sent = [s.response.entries] := by
    have hall : s.response.allRequiredAcksContained = true := decide_eq_true hcontained
    rw [sendIfContained, if_pos hall, hsent]
    rfl
  cases answers with
  | nil =>
    have hpending : s.pending = [] := List.map_eq_nil_iff.mp hkeys.nil_eq.symm
    rw [sentOnce_nil, hsend, eq_self, true_and]
    simp [hasAnswer_iff_covers hpending]
  | cons a answers =>
    rw [sentOnce_cons, hsend]
    simp

/-- **The response is sent once** when the pending subscriptions are answered, exactly if the answers
are as many as it lacks.

**Proof sketch.** Induction on the answers. Each one makes the response lack one answer less, and
the response is sent when it lacks none; by then all answers have to be there. -/
lemma sentOnce_iff (hsent : s.sent = [])
    (hlt : s.response.numberContainedAcks < s.response.numberRequiredAcks)
    (hkeys : (answers.map Prod.fst).Perm (s.pending.map PendingAnswer.key)) :
    s.SentOnce entries answers ↔
      s.response.numberContainedAcks.toNat + answers.length = s.response.numberRequiredAcks.toNat ∧
        ∀ e ∈ entries, s.Covers e := by
  induction answers generalizing s with
  | nil =>
    rw [sentOnce_nil, hsent]
    have hne := UInt8.lt_iff_toNat_lt.mp hlt
    rw [List.length_nil, Nat.add_zero]
    simp [hne.ne]
  | cons a answers ih =>
    obtain ⟨key, b⟩ := a
    obtain ⟨s', hs', hsent', hrequired, hcontained, hkeys', hcovers⟩ :=
      remoteSubscriptionAcknowledge_eq hkeys
    have hbound := s.response.numberRequiredAcks.toNat_lt
    have hlt := UInt8.lt_iff_toNat_lt.mp hlt
    have hnext : s'.response.numberContainedAcks.toNat =
        s.response.numberContainedAcks.toNat + 1 := by
      rw [hcontained, UInt8.toNat_add, UInt8.toNat_one]
      exact Nat.mod_eq_of_lt (by omega)
    rw [sentOnce_cons, hs', and_iff_right hsent, List.length_cons]
    by_cases hcomplete : s'.response.numberRequiredAcks ≤ s'.response.numberContainedAcks
    · rw [sentOnce_sendIfContained (hsent'.trans hsent) hcomplete hkeys']
      simp only [hcovers]
      refine and_congr_left fun _ => ?_
      rw [UInt8.le_iff_toNat_le, hrequired, hnext] at hcomplete
      rw [← List.length_eq_zero_iff]
      omega
    · have hnot : s'.sendIfContained = s' := by
        rw [sendIfContained, if_neg]
        simpa [Response.allRequiredAcksContained] using hcomplete
      rw [hnot, ih (hsent'.trans hsent) (by simpa using hcomplete) hkeys', hnext, hrequired]
      simp only [hcovers]
      refine and_congr_left fun _ => ?_
      omega

end Acknowledge

end Answering

namespace Received

/-- The answers to the pending subscriptions are as many as these. -/
lemma forall_sentOnce_iff {s : Answering} {entries : List EventgroupentryImpl} {P : ℕ → Prop}
    (h : ∀ answers : List ((UInt16 × UInt16 × UInt16 × UInt16) × Bool),
      (answers.map Prod.fst).Perm (s.pending.map PendingAnswer.key) →
        (s.SentOnce entries answers ↔ P answers.length)) :
    (∀ answers : List ((UInt16 × UInt16 × UInt16 × UInt16) × Bool),
      (answers.map Prod.fst).Perm (s.pending.map PendingAnswer.key) → s.SentOnce entries answers) ↔
      P s.pending.length := by
  constructor
  · intro hall
    have hkeys : ((s.pending.map fun p => (p.key, true)).map Prod.fst).Perm
        (s.pending.map PendingAnswer.key) := by
      rw [List.map_map]
      exact List.Perm.refl _
    have hp := (h _ hkeys).mp (hall _ hkeys)
    rwa [List.length_map] at hp
  · intro hp answers hkeys
    rw [h answers hkeys]
    have hlength := hkeys.length_eq
    rw [List.length_map, List.length_map] at hlength
    rwa [hlength]

section OnMessage

variable (r : Received)

/-- Nothing is sent while the entries are processed. -/
lemma sent_processEntries : r.processEntries.sent = [] :=
  Answering.sent_foldl

/-- The required acknowledgements after the entries are processed. -/
lemma numberRequiredAcks_processEntries : r.processEntries.response.numberRequiredAcks =
    r.calls.foldl required r.message.numberRequiredAcks :=
  Answering.numberRequiredAcks_foldl

/-- The contained acknowledgements after the entries are processed. -/
lemma numberContainedAcks_processEntries : r.processEntries.response.numberContainedAcks.toNat =
    r.calls.countP answersAtOnce % 256 := by
  rw [processEntries, Answering.numberContainedAcks_foldl]
  exact congrArg (· % 256) (Nat.zero_add _)

/-- The subscriptions that wait for the host after the entries are processed. -/
lemma pending_processEntries : r.processEntries.pending = r.calls.filterMap pendingAnswer :=
  Answering.pending_foldl

/-- The entries that are covered after all entries are processed. -/
lemma covers_processEntries {e : EventgroupentryImpl} : r.processEntries.Covers e ↔
    ∃ c ∈ r.calls, (answersAtOnce c ∨ (pendingAnswer c).isSome) ∧
      c.1.subscription = e.subscription := by
  rw [processEntries, Answering.covers_foldl, or_iff_right]
  rintro (⟨a, ha, -⟩ | ⟨p, hp, -⟩)
  · cases ha
  · cases hp

variable {r}

/-- The response is sent at the end of `on_message`. -/
lemma answered_of_contained (hguard : r.message.numberRequiredAcks ≠ 0 ∨
      r.processEntries.response.numberRequiredAcks > 0)
    (hcontained : r.processEntries.response.numberRequiredAcks ≤
      r.processEntries.response.numberContainedAcks) :
    r.Answered ↔ (r.subscribes ≠ [] → r.processEntries.pending.length = 0 ∧
      ∀ e ∈ r.subscribes, r.processEntries.Covers e) := by
  have hon : r.onMessage = r.processEntries.sendIfContained := if_pos hguard
  have hpending : r.onMessage.pending = r.processEntries.pending := by
    rw [hon, Answering.sendIfContained]
    split <;> rfl
  rw [← hpending]
  refine imp_congr_right fun _ => forall_sentOnce_iff (P := fun n =>
    n = 0 ∧ ∀ e ∈ r.subscribes, r.processEntries.Covers e) fun answers hkeys => ?_
  rw [hon, Answering.sentOnce_sendIfContained r.sent_processEntries hcontained (hpending ▸ hkeys),
    List.length_eq_zero_iff]

/-- The response is not complete at the end of `on_message`. -/
lemma answered_of_not_contained (hcontained : r.processEntries.response.numberContainedAcks <
      r.processEntries.response.numberRequiredAcks) :
    r.Answered ↔ (r.subscribes ≠ [] → r.processEntries.response.numberContainedAcks.toNat +
      r.processEntries.pending.length = r.processEntries.response.numberRequiredAcks.toNat ∧
      ∀ e ∈ r.subscribes, r.processEntries.Covers e) := by
  have hon : r.onMessage = r.processEntries := by
    have hnot : r.processEntries.sendIfContained = r.processEntries := by
      refine if_neg ?_
      simpa [Response.allRequiredAcksContained] using hcontained
    rw [onMessage, hnot]
    exact ite_self _
  rw [Answered, hon]
  exact imp_congr_right fun _ => forall_sentOnce_iff (P := fun n => _ + n = _ ∧ _)
    fun answers hkeys => Answering.sentOnce_iff r.sent_processEntries hcontained hkeys

/-- No answer is required at the end of `on_message`, and none was at its start. -/
lemma answered_of_zero (hzero : r.message.numberRequiredAcks = 0)
    (hrequired : r.processEntries.response.numberRequiredAcks = 0) :
    r.Answered ↔ (r.subscribes ≠ [] → r.processEntries.pending.length = 1 ∧
      ∀ e ∈ r.subscribes, r.processEntries.Covers e) := by
  have hon : r.onMessage = r.processEntries := by
    refine if_neg ?_
    rw [hzero, hrequired]
    simp
  rw [Answered, hon]
  refine imp_congr_right fun _ => forall_sentOnce_iff (P := fun n =>
    n = 1 ∧ ∀ e ∈ r.subscribes, r.processEntries.Covers e) fun answers hkeys => ?_
  cases answers with
  | nil =>
    rw [Answering.sentOnce_nil, r.sent_processEntries]
    simp
  | cons a answers =>
    -- the first answer completes the response
    obtain ⟨key, b⟩ := a
    obtain ⟨s', hs', hsent', hrequired', -, hkeys', hcovers⟩ :=
      Answering.remoteSubscriptionAcknowledge_eq hkeys
    rw [hrequired] at hrequired'
    rw [Answering.sentOnce_cons, hs', and_iff_right r.sent_processEntries,
      Answering.sentOnce_sendIfContained (hsent'.trans r.sent_processEntries)
        (by rw [hrequired']; exact UInt8.zero_le) hkeys']
    simp only [hcovers, List.length_cons, Nat.add_eq_right, List.length_eq_zero_iff]

end OnMessage

/-- The response is sent once, after every order of the answers that were pending and with an answer to
each Subscribe entry, exactly if the calls balance.

**Proof sketch.** By what is required and contained after the loop over the entries. If all is
contained, the response is sent at once, and nothing may be pending. If not, each later answer makes
it lack one less, and it is sent with the one that makes it lack none. If nothing was required at all,
nothing is sent at once, and the response is sent with the first later answer. -/
lemma answered_iff_balanced (r : Received) : r.Answered ↔ r.Balanced := by
  have hcontained := r.numberContainedAcks_processEntries
  have hcover {e : EventgroupentryImpl} := r.covers_processEntries (e := e)
  rw [Balanced, ← numberRequiredAcks_processEntries, ← pending_processEntries, ← hcontained]
  simp only [← hcover]
  by_cases hzero : r.message.numberRequiredAcks = 0 ∧
      r.processEntries.response.numberRequiredAcks = 0
  · obtain ⟨hzero, hrequired⟩ := hzero
    rw [answered_of_zero hzero hrequired]
    refine imp_congr_right fun _ => and_comm.trans (and_congr_right fun _ => ?_)
    rw [hzero, hrequired]
    split
    · rename_i hpending
      simp [hpending]
    · rename_i hpending
      simp [hpending]
  · have hguard : r.message.numberRequiredAcks ≠ 0 ∨
        r.processEntries.response.numberRequiredAcks > 0 := by
      rw [gt_iff_lt, UInt8.pos_iff_ne_zero]
      exact not_and_or.mp hzero
    have hzero' : ¬ (r.message.numberRequiredAcks = 0 ∧
        r.processEntries.response.numberRequiredAcks = 0 ∧
        r.processEntries.pending.length = 1) := fun h => hzero ⟨h.1, h.2.1⟩
    rw [or_iff_left hzero', and_iff_right (not_and_or.mp hzero)]
    by_cases hle : r.processEntries.response.numberRequiredAcks ≤
        r.processEntries.response.numberContainedAcks
    · rw [answered_of_contained hguard hle]
      rw [UInt8.le_iff_toNat_le] at hle
      refine imp_congr_right fun _ => and_comm.trans (and_congr_right fun _ => ?_)
      split
      · rename_i hpending
        exact iff_of_true hpending hle
      · rename_i hpending
        exact iff_of_false hpending (by omega)
    · rw [UInt8.not_le] at hle
      rw [answered_of_not_contained hle]
      rw [UInt8.lt_iff_toNat_lt] at hle
      refine imp_congr_right fun _ => and_comm.trans (and_congr_right fun _ => ?_)
      split
      · rename_i hpending
        rw [hpending]
        exact iff_of_false (by omega) (by omega)
      · rfl

end Received

end Vsomeip.Sd
