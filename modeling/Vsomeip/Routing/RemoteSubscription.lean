import Vsomeip.Routing.EventgroupInfo

set_option relaxedAutoImplicit false
set_option autoImplicit false

/-!
# Remote subscriptions

The functions of `routing/src/routing_manager_impl.cpp` through which remote subscriptions to one
eventgroup pass: `on_remote_subscription` and `on_unsubscribe` for the entries that service discovery
has received, and `on_subscribe_ack`, `on_subscribe_nack` and `on_unsubscribe_ack` for the answers of
the hosting application. They change the eventgroup and call out to the hosting application and to
service discovery; these calls are the outputs here.

The client that offers the service (`find_local_client`), the client of the subscriber and the time
are given with each call. What the functions keep for the selection of clients (`remote_subscribers_`)
does not come back to the eventgroup and is left out.

## Main definitions

* `Vsomeip.RemoteEvent` — what can happen to the remote subscriptions of an eventgroup.
* `Vsomeip.EventgroupInfo.handle` — what the routing manager does then.

## Main results

* `Vsomeip.EventgroupInfo.acknowledgeEach_eq`, `Vsomeip.EventgroupInfo.refuseEach_eq` — what comes of
  the released entries.
-/

namespace Vsomeip

/-- `VSOMEIP_ROUTING_CLIENT`, which `find_local_client` returns if nobody offers the service. -/
def routingClient : UInt16 := 0

/-- `remote_subscription_state_e`. -/
inductive RemoteSubscriptionState
  | acked
  | nacked
  | pending
  | error
deriving DecidableEq

/-- A call to the hosting application (`send_subscription`, `send_unsubscription`), to service
discovery (`remote_subscription_acknowledge` with the identifier of the entry), or of the callback
that service discovery has given. -/
inductive RemoteOutput (Address Ident : Type)
  | sendSubscription (offeringClient subscribingClient id : UInt16)
  | sendUnsubscription (offeringClient subscribingClient id : UInt16)
  | acknowledge (client : UInt16) (accepted : Bool) (entry : PendingSubscription Address Ident)
  | callback (state : RemoteSubscriptionState) (client : UInt16)
deriving DecidableEq

/-- What can happen to the remote subscriptions of an eventgroup: an entry of a remote endpoint, or
an answer with an id. -/
inductive RemoteEvent (Address Ident : Type)
  | subscribe (subscriber target : EndpointDefinition Address) (ttl : { t : UInt32 // 0 < t })
      (sdMessageId : Ident) (client : UInt16)
  | stopSubscribe (target : EndpointDefinition Address) (client : UInt16)
  | subscribeAck (client id : UInt16)
  | subscribeNack (client id : UInt16)
  | unsubscribeAck (id : UInt16)

namespace EventgroupInfo

variable {Address Ident : Type} [DecidableEq Address]

/-- The entry that `on_remote_subscription` makes pending. -/
def subscription (subscriber target : EndpointDefinition Address) (ttl : UInt32) (sdMessageId : Ident)
    (client : UInt16) : PendingSubscription Address Ident where
  sdMessageIdentifier := some sdMessageId
  subscriber := subscriber
  target := target
  ttl := ttl
  subscribingClient := client

/-- The entry that `on_unsubscribe` makes pending. -/
def unsubscription (target : EndpointDefinition Address) (client : UInt16) :
    PendingSubscription Address Ident where
  sdMessageIdentifier := none
  subscriber := target
  target := target
  ttl := 0
  subscribingClient := client

omit [DecidableEq Address] in
/-- A subscription is one. -/
@[simp] lemma isSubscribe_subscription (subscriber target : EndpointDefinition Address)
    (ttl : { t : UInt32 // 0 < t }) (sdMessageId : Ident) (client : UInt16) :
    (subscription subscriber target ttl.1 sdMessageId client).isSubscribe = true :=
  decide_eq_true ttl.2

omit [DecidableEq Address] in
/-- An unsubscription is none. -/
@[simp] lemma isSubscribe_unsubscription (target : EndpointDefinition Address) (client : UInt16) :
    (unsubscription target client : PendingSubscription Address Ident).isSubscribe = false :=
  rfl

/-- `routing_manager_impl::on_remote_subscription`. -/
def onRemoteSubscription (s : EventgroupInfo Address Ident) (offeringClient : UInt16) (now : ℕ)
    (subscriber target : EndpointDefinition Address) (ttl : UInt32) (sdMessageId : Ident)
    (client : UInt16) : EventgroupInfo Address Ident × List (RemoteOutput Address Ident) :=
  match s.updateTarget subscriber (now + ttl.toNat) with
  | (true, s) => (s, [.callback .acked client])
  | (false, s) =>
    let (id, s) := s.addPendingSubscription (subscription subscriber target ttl sdMessageId client)
    (s, (if id ≠ defaultSubscription then [.sendSubscription offeringClient client id] else []) ++
      [.callback .pending client])

/-- `routing_manager_impl::on_unsubscribe`. -/
def onUnsubscribe (s : EventgroupInfo Address Ident) (offeringClient : UInt16)
    (target : EndpointDefinition Address) (client : UInt16) :
    EventgroupInfo Address Ident × List (RemoteOutput Address Ident) :=
  let (id, s) := s.addPendingSubscription (unsubscription target client)
  (s.removeTarget target,
    if id ≠ defaultSubscription then [.sendUnsubscription offeringClient client id] else [])

/-- The target that `on_subscribe_ack` adds for an accepted subscription: for UDP in a multicast
eventgroup with the multicast address as well. -/
def addSubscriber (s : EventgroupInfo Address Ident) (now : ℕ)
    (p : PendingSubscription Address Ident) : EventgroupInfo Address Ident :=
  let expiration := now + p.ttl.toNat
  if s.isMulticast && !p.subscriber.isReliable then
    s.addTargetMulticast ⟨p.target, expiration⟩ ⟨p.subscriber, expiration⟩
  else s.addTarget ⟨p.subscriber, expiration⟩

/-- The loop of `on_subscribe_ack` over the released entries. -/
def acknowledgeEach (offeringClient client : UInt16) (now : ℕ) :
    List (PendingSubscription Address Ident) → EventgroupInfo Address Ident →
      EventgroupInfo Address Ident × List (RemoteOutput Address Ident)
  | [], s => (s, [])
  | p :: ps, s =>
    if p.isSubscribe then
      if p.sdMessageIdentifier.isSome then
        let (s, out) := acknowledgeEach offeringClient client now ps (s.addSubscriber now p)
        (s, .acknowledge client true p :: out)
      else acknowledgeEach offeringClient client now ps s
    else
      -- the unsubscription was queued while the subscription was pending
      let (s, out) := acknowledgeEach offeringClient client now ps s
      (s, .sendUnsubscription offeringClient p.subscribingClient p.pendingSubscriptionId :: out)

/-- The loop of `on_subscribe_nack` over the released entries. -/
def refuseEach (offeringClient client : UInt16) (released : List (PendingSubscription Address Ident)) :
    List (RemoteOutput Address Ident) :=
  released.filterMap fun p =>
    if p.isSubscribe then
      if p.sdMessageIdentifier.isSome then some (.acknowledge client false p) else none
    else some (.sendUnsubscription offeringClient p.subscribingClient p.pendingSubscriptionId)

/-- `routing_manager_impl::on_subscribe_nack` for the answer to a remote subscription. With
`DEFAULT_SUBSCRIPTION` it is about a subscription of this host, which the eventgroup does not
notice. -/
def onSubscribeNack (s : EventgroupInfo Address Ident) (offeringClient client id : UInt16) :
    EventgroupInfo Address Ident × List (RemoteOutput Address Ident) :=
  if id = defaultSubscription then (s, [])
  else
    let (released, s) := s.removePendingSubscription id
    (s, refuseEach offeringClient client released)

/-- `routing_manager_impl::on_subscribe_ack`, likewise. If the service was stopped while the
subscription was pending, it is refused. -/
def onSubscribeAck (s : EventgroupInfo Address Ident) (offeringClient : UInt16) (now : ℕ)
    (client id : UInt16) : EventgroupInfo Address Ident × List (RemoteOutput Address Ident) :=
  if id = defaultSubscription then (s, [])
  else if offeringClient = routingClient then s.onSubscribeNack offeringClient client id
  else
    let (released, s) := s.removePendingSubscription id
    acknowledgeEach offeringClient client now released s

/-- `routing_manager_impl::on_unsubscribe_ack`. -/
def onUnsubscribeAck (s : EventgroupInfo Address Ident) (offeringClient id : UInt16) :
    EventgroupInfo Address Ident × List (RemoteOutput Address Ident) :=
  let (released, s) := s.removePendingSubscription id
  (s, released.map fun p =>
    .sendSubscription offeringClient p.subscribingClient p.pendingSubscriptionId)

/-- What the routing manager does when something happens, at a time and with an offering client. -/
def handle (s : EventgroupInfo Address Ident) (offeringClient : UInt16) (now : ℕ) :
    RemoteEvent Address Ident → EventgroupInfo Address Ident × List (RemoteOutput Address Ident)
  | .subscribe subscriber target ttl sdMessageId client =>
    s.onRemoteSubscription offeringClient now subscriber target ttl.1 sdMessageId client
  | .stopSubscribe target client => s.onUnsubscribe offeringClient target client
  | .subscribeAck client id => s.onSubscribeAck offeringClient now client id
  | .subscribeNack client id => s.onSubscribeNack offeringClient client id
  | .unsubscribeAck id => s.onUnsubscribeAck offeringClient id

/-! ## The targets -/

section Targets

variable (s : EventgroupInfo Address Ident) (e : EndpointDefinition Address)

/-- A step that leaves the pending subscriptions as they are. -/
structure SamePending (s' s : EventgroupInfo Address Ident) : Prop where
  pending : s'.pendingSubscriptions = s.pendingSubscriptions
  byRemote : s'.pendingSubscriptionsByRemote = s.pendingSubscriptionsByRemote
  subscriptionId : s'.subscriptionId = s.subscriptionId

namespace SamePending

variable {s s' s'' : EventgroupInfo Address Ident}

omit [DecidableEq Address] in
/-- A state has its own pending subscriptions. -/
lemma refl (s : EventgroupInfo Address Ident) : SamePending s s := ⟨rfl, rfl, rfl⟩

omit [DecidableEq Address] in
/-- Equal pending subscriptions are transitive. -/
lemma trans (h : SamePending s'' s') (h' : SamePending s' s) : SamePending s'' s :=
  ⟨h.pending.trans h'.pending, h.byRemote.trans h'.byRemote,
    h.subscriptionId.trans h'.subscriptionId⟩

omit [DecidableEq Address] in
/-- Equal pending subscriptions have equal queues. -/
lemma queue_eq (h : SamePending s' s) : s'.queue = s.queue := by
  funext r
  rw [queue, queue, h.pending, h.byRemote]

omit [DecidableEq Address] in
/-- Consistency depends on the pending subscriptions only. -/
lemma consistent (h : SamePending s' s) (hs : s.Consistent) : s'.Consistent where
  default := by rw [h.pending]; exact hs.default
  nonempty := fun r => by rw [h.byRemote]; exact hs.nonempty r
  nodup := fun hr => by rw [h.byRemote] at hr; exact hs.nodup hr
  own := fun hr => by rw [h.byRemote] at hr; rw [h.pending]; exact hs.own hr
  listed := fun hp => by rw [h.pending] at hp; rw [h.byRemote]; exact hs.listed hp

omit [DecidableEq Address] in
/-- The next id depends on the pending subscriptions only. -/
lemma nextId_eq (h : SamePending s' s) : s'.nextId = s.nextId := by
  rw [nextId, nextId, h.subscriptionId]

end SamePending

/-- The search for a target of an endpoint. -/
lemma any_endpoint_iff : s.targets.any (·.endpoint = e) = true ↔ e ∈ s.endpoints := by
  simp [endpoints, List.any_eq_true]

/-- A multicast target changes no pending subscription. -/
lemma samePending_addMulticastTarget (target : Target Address) :
    SamePending (s.addMulticastTarget target) s := by
  rw [addMulticastTarget]
  split
  · exact .refl s
  · exact ⟨rfl, rfl, rfl⟩

/-- A multicast target is no endpoint of a subscriber. -/
lemma endpoints_addMulticastTarget (target : Target Address) :
    (s.addMulticastTarget target).endpoints = s.endpoints := by
  rw [addMulticastTarget]
  split <;> rfl

/-- `add_target`, with one or with two arguments, adds an endpoint that is not there. -/
lemma addTarget_eq (target : Target Address) :
    SamePending (s.addTarget target) s ∧ (s.addTarget target).endpoints =
      if target.endpoint ∈ s.endpoints then s.endpoints else s.endpoints ++ [target.endpoint] := by
  rw [addTarget]
  by_cases h : target.endpoint ∈ s.endpoints
  · rw [if_pos ((s.any_endpoint_iff _).mpr h), if_pos h]
    exact ⟨.refl s, rfl⟩
  · rw [if_neg fun hany => h ((s.any_endpoint_iff _).mp hany), if_neg h]
    exact ⟨⟨rfl, rfl, rfl⟩, List.map_append⟩

/-- The endpoints after a target with a multicast address is added. -/
lemma addTargetMulticast_eq (target subscriber : Target Address) :
    SamePending (s.addTargetMulticast target subscriber) s ∧
      (s.addTargetMulticast target subscriber).endpoints =
        if subscriber.endpoint ∈ s.endpoints then s.endpoints
        else s.endpoints ++ [subscriber.endpoint] := by
  rw [addTargetMulticast]
  by_cases h : subscriber.endpoint ∈ s.endpoints
  · rw [if_pos ((s.any_endpoint_iff _).mpr h), if_pos h]
    exact ⟨.refl s, rfl⟩
  · rw [if_neg fun hany => h ((s.any_endpoint_iff _).mp hany), if_neg h]
    refine ⟨(samePending_addMulticastTarget _ _).trans ⟨rfl, rfl, rfl⟩, ?_⟩
    rw [endpoints_addMulticastTarget]
    exact List.map_append

/-- The endpoints after a subscriber is added. -/
lemma addSubscriber_eq (now : ℕ) (p : PendingSubscription Address Ident) :
    SamePending (s.addSubscriber now p) s ∧ (s.addSubscriber now p).endpoints =
      if p.subscriber ∈ s.endpoints then s.endpoints else s.endpoints ++ [p.subscriber] := by
  rw [addSubscriber]
  split
  · exact addTargetMulticast_eq s _ _
  · exact addTarget_eq s _

/-- `update_target` tells whether the endpoint is a target, and changes its expiration only. -/
lemma updateTarget_eq (expiration : ℕ) :
    (s.updateTarget e expiration).1 = decide (e ∈ s.endpoints) ∧
      SamePending (s.updateTarget e expiration).2 s ∧
      (s.updateTarget e expiration).2.endpoints = s.endpoints := by
  rw [updateTarget]
  cases h : s.targets.findIdx? (·.endpoint = e) with
  | none =>
    refine ⟨?_, .refl s, rfl⟩
    have hall := List.findIdx?_eq_none_iff.mp h
    simpa [endpoints] using hall
  | some i =>
    obtain ⟨hi, he, -⟩ := List.findIdx?_eq_some_iff_getElem.mp h
    refine ⟨?_, ⟨rfl, rfl, rfl⟩, ?_⟩
    · simpa [endpoints] using ⟨s.targets[i], List.getElem_mem hi, by simpa using he⟩
    · apply List.ext_getElem?
      intro j
      simp only [endpoints, List.getElem?_map, List.getElem?_modify]
      cases s.targets[j]? with
      | none => rfl
      | some t =>
        by_cases hij : i = j
        · simp [hij]
        · simp [hij]

/-- The endpoints after one is removed. -/
lemma removeTarget_eq :
    SamePending (s.removeTarget e) s ∧ (s.removeTarget e).endpoints = s.endpoints.erase e := by
  refine ⟨⟨rfl, rfl, rfl⟩, ?_⟩
  have hp : (fun t : Target Address => decide (t.endpoint = e)) =
      (fun e' => e == e') ∘ Target.endpoint := by
    funext t
    simp [eq_comm, beq_eq_decide]
  rw [endpoints, endpoints, removeTarget, List.erase_eq_eraseP, List.eraseP_map, hp]

end Targets

/-! ## The released entries -/

section Released

variable {s : EventgroupInfo Address Ident} (offeringClient client : UInt16) (now : ℕ)
  {released : List (PendingSubscription Address Ident)}

/-- The call that a released entry leads to. -/
def answerOf (offeringClient client : UInt16) (accepted : Bool)
    (p : PendingSubscription Address Ident) : RemoteOutput Address Ident :=
  if p.isSubscribe then .acknowledge client accepted p
  else .sendUnsubscription offeringClient p.subscribingClient p.pendingSubscriptionId

omit [DecidableEq Address] in
/-- Each entry is refused or sent, and no endpoint becomes a target. -/
lemma refuseEach_eq
    (h : ∀ p ∈ released, p.isSubscribe → p.sdMessageIdentifier.isSome) :
    refuseEach offeringClient client released =
      released.map (answerOf offeringClient client false) := by
  rw [refuseEach, ← List.filterMap_eq_map]
  refine List.filterMap_congr fun p hp => ?_
  rw [Function.comp_apply, answerOf]
  split
  · rename_i hsub
    rw [if_pos (h p hp hsub)]
  · rfl

/-- The loop leaves the pending subscriptions as they are. -/
lemma samePending_acknowledgeEach (released : List (PendingSubscription Address Ident))
    (s : EventgroupInfo Address Ident) :
    SamePending (acknowledgeEach offeringClient client now released s).1 s := by
  induction released generalizing s with
  | nil => exact .refl s
  | cons p ps ih =>
    rw [acknowledgeEach]
    split
    · split
      · exact (ih _).trans (addSubscriber_eq s now p).1
      · exact ih s
    · exact ih s

/-- Each entry is accepted or sent, and the endpoints of those that are accepted become targets. -/
lemma acknowledgeEach_eq
    (h : ∀ p ∈ released, p.isSubscribe → p.sdMessageIdentifier.isSome) :
    (acknowledgeEach offeringClient client now released s).2 =
        released.map (answerOf offeringClient client true) ∧
      (s.endpoints.Nodup →
        (acknowledgeEach offeringClient client now released s).1.endpoints.Nodup) ∧
      ∀ e, e ∈ (acknowledgeEach offeringClient client now released s).1.endpoints ↔
        e ∈ s.endpoints ∨ ∃ p ∈ released, p.isSubscribe ∧ p.subscriber = e := by
  induction released generalizing s with
  | nil => exact ⟨rfl, id, fun e => by simp [acknowledgeEach]⟩
  | cons p ps ih =>
    have ih (s : EventgroupInfo Address Ident) :=
      ih (s := s) fun q hq => h q (List.mem_cons_of_mem p hq)
    rw [acknowledgeEach]
    by_cases hsub : p.isSubscribe
    · rw [if_pos hsub, if_pos (h p List.mem_cons_self hsub)]
      obtain ⟨-, hend⟩ := addSubscriber_eq s now p
      obtain ⟨hout, hnodup, hmem⟩ := ih (s.addSubscriber now p)
      refine ⟨?_, fun hs => hnodup ?_, fun e => (hmem e).trans ?_⟩
      · simp only [hout, List.map_cons, answerOf, if_pos hsub]
      · rw [hend]
        split
        · exact hs
        · rename_i hnotMem
          exact hs.append (List.nodup_singleton _) (List.disjoint_singleton.mpr hnotMem)
      · rw [hend]
        split
        · rename_i hin
          simp only [List.exists_mem_cons_iff, hsub, true_and]
          constructor
          · rintro (he | he)
            · exact .inl he
            · exact .inr (.inr he)
          · rintro (he | rfl | he)
            · exact .inl he
            · exact .inl hin
            · exact .inr he
        · simp only [List.mem_append, List.mem_singleton, List.exists_mem_cons_iff, hsub, true_and,
            or_assoc, eq_comm]
    · rw [if_neg hsub]
      obtain ⟨hout, hnodup, hmem⟩ := ih s
      refine ⟨?_, hnodup, fun e => (hmem e).trans ?_⟩
      · simp only [hout, List.map_cons, answerOf, if_neg hsub]
      · simp [hsub]

end Released

/-! ## What happens to the queues and the targets -/

section Handle

variable {s : EventgroupInfo Address Ident} {r : Address × UInt16} (offeringClient : UInt16) (now : ℕ)

/-- An entry is sent exactly if its queue was empty. -/
lemma Consistent.sent_of_add (hs : s.Consistent) (p : PendingSubscription Address Ident)
    (send : UInt16 → RemoteOutput Address Ident) :
    (if (s.addPendingSubscription p).1 ≠ defaultSubscription
      then [send (s.addPendingSubscription p).1] else []) =
      if s.queue p.subscriber.remote = [] then [send s.nextId] else [] := by
  have hid := hs.addPendingSubscription_fst p
  by_cases hnil : s.queue p.subscriber.remote = []
  · rw [if_pos hnil] at hid ⊢
    rw [if_pos (hid ▸ s.nextId_ne), hid]
  · rw [if_neg hnil] at hid ⊢
    rw [if_neg (not_not.mpr hid)]

/-- A subscription of a target is acknowledged at once. -/
lemma handle_subscribe_of_mem {e : EndpointDefinition Address} (he : e ∈ s.endpoints)
    (target : EndpointDefinition Address) (ttl : { t : UInt32 // 0 < t }) (sdMessageId : Ident)
    (client : UInt16) :
    SamePending (s.handle offeringClient now (.subscribe e target ttl sdMessageId client)).1 s ∧
    (s.handle offeringClient now (.subscribe e target ttl sdMessageId client)).1.endpoints =
      s.endpoints ∧
    (s.handle offeringClient now (.subscribe e target ttl sdMessageId client)).2 =
      [.callback .acked client] := by
  obtain ⟨hfound, hsame, hend⟩ := updateTarget_eq s e (now + ttl.1.toNat)
  simp only [handle, onRemoteSubscription]
  generalize s.updateTarget e (now + ttl.1.toNat) = result at hfound hsame hend ⊢
  obtain ⟨found, s'⟩ := result
  obtain rfl : found = true := hfound.trans (decide_eq_true he)
  exact ⟨hsame, hend, rfl⟩

/-- A subscription of another endpoint is put at the end of its queue, and sent if it is alone
there. -/
lemma Consistent.handle_subscribe_of_notMem (hs : s.Consistent)
    (hfresh : s.pendingSubscriptions s.nextId = none) {e : EndpointDefinition Address}
    (he : e ∉ s.endpoints) (target : EndpointDefinition Address) (ttl : { t : UInt32 // 0 < t })
    (sdMessageId : Ident) (client : UInt16) :
    (s.handle offeringClient now (.subscribe e target ttl sdMessageId client)).1.Consistent ∧
    (s.handle offeringClient now (.subscribe e target ttl sdMessageId client)).1.queue =
      Function.update s.queue e.remote (s.queue e.remote ++
        [(subscription e target ttl.1 sdMessageId client).withId s.nextId]) ∧
    (s.handle offeringClient now (.subscribe e target ttl sdMessageId client)).1.endpoints =
      s.endpoints ∧
    (s.handle offeringClient now (.subscribe e target ttl sdMessageId client)).1.subscriptionId =
      s.nextId ∧
    (s.handle offeringClient now (.subscribe e target ttl sdMessageId client)).2 =
      (if s.queue e.remote = [] then [.sendSubscription offeringClient client s.nextId] else []) ++
        [.callback .pending client] := by
  obtain ⟨hfound, hsame, hend⟩ := updateTarget_eq s e (now + ttl.1.toNat)
  simp only [handle, onRemoteSubscription]
  generalize s.updateTarget e (now + ttl.1.toNat) = result at hfound hsame hend ⊢
  obtain ⟨found, s'⟩ := result
  obtain rfl : found = false := hfound.trans (decide_eq_false he)
  dsimp only at hsame hend ⊢
  have hs' := hsame.consistent hs
  have hfresh' : s'.pendingSubscriptions s'.nextId = none := by
    rw [hsame.nextId_eq, hsame.pending]
    exact hfresh
  obtain ⟨hcons, hqueue⟩ := hs'.addPendingSubscription
    (subscription e target ttl.1 sdMessageId client) hfresh'
  refine ⟨hcons, ?_, ?_, ?_, ?_⟩
  · rw [hqueue, hsame.queue_eq, hsame.nextId_eq]
    rfl
  · rw [addPendingSubscription_snd, ← hend]
    rfl
  · rw [addPendingSubscription_snd, ← hsame.nextId_eq]
  · rw [hs'.sent_of_add _ (.sendSubscription offeringClient client), hsame.queue_eq,
      hsame.nextId_eq]
    rfl

/-- An unsubscription is put at the end of its queue, and sent if it is alone there, and the
endpoint is no target any more. -/
lemma Consistent.handle_stopSubscribe (hs : s.Consistent)
    (hfresh : s.pendingSubscriptions s.nextId = none) (e : EndpointDefinition Address)
    (client : UInt16) :
    (s.handle offeringClient now (.stopSubscribe e client)).1.Consistent ∧
    (s.handle offeringClient now (.stopSubscribe e client)).1.queue =
      Function.update s.queue e.remote
        (s.queue e.remote ++ [(unsubscription e client).withId s.nextId]) ∧
    (s.handle offeringClient now (.stopSubscribe e client)).1.endpoints = s.endpoints.erase e ∧
    (s.handle offeringClient now (.stopSubscribe e client)).1.subscriptionId = s.nextId ∧
    (s.handle offeringClient now (.stopSubscribe e client)).2 =
      if s.queue e.remote = [] then [.sendUnsubscription offeringClient client s.nextId] else [] := by
  obtain ⟨hcons, hqueue⟩ := hs.addPendingSubscription (unsubscription e client) hfresh
  obtain ⟨hsame, hend⟩ :=
    removeTarget_eq (s.addPendingSubscription (unsubscription e client)).2 e
  refine ⟨hsame.consistent hcons, hsame.queue_eq.trans hqueue, hend.trans ?_,
    hsame.subscriptionId.trans ?_, ?_⟩
  · rw [addPendingSubscription_snd]
    rfl
  · rw [addPendingSubscription_snd]
  · exact hs.sent_of_add (unsubscription e client) (.sendUnsubscription offeringClient client)

/-- An answer with an id, of either kind. -/
inductive IsAnswer (id : UInt16) : RemoteEvent Address Ident → Prop
  | subscribeAck (client : UInt16) : IsAnswer id (.subscribeAck client id)
  | subscribeNack (client : UInt16) : IsAnswer id (.subscribeNack client id)
  | unsubscribeAck : IsAnswer id (.unsubscribeAck id)

/-- An answer with an id that is not that of a first entry changes nothing. -/
lemma Consistent.handle_of_not_head (hs : s.Consistent) {id : UInt16}
    {event : RemoteEvent Address Ident} (hevent : IsAnswer id event)
    (hid : ∀ r q rest, s.queue r = q :: rest → q.pendingSubscriptionId ≠ id) :
    s.handle offeringClient now event = (s, []) := by
  have hremove := hs.removePendingSubscription_of_not_head hid
  have hnack (client : UInt16) : s.onSubscribeNack offeringClient client id = (s, []) := by
    rw [onSubscribeNack, hremove]
    split <;> rfl
  cases hevent with
  | subscribeAck client =>
    rw [handle, onSubscribeAck, hremove, hnack]
    split
    · rfl
    · split <;> rfl
  | subscribeNack client => exact hnack client
  | unsubscribeAck =>
    rw [handle, onUnsubscribeAck, hremove]
    rfl

/-- An answer does not move the counter. -/
lemma handle_subscriptionId {id : UInt16} {event : RemoteEvent Address Ident}
    (hevent : IsAnswer id event) :
    (s.handle offeringClient now event).1.subscriptionId = s.subscriptionId := by
  have hremove := (removePendingSubscription_frame s id).2
  have hnack (client : UInt16) :
      (s.onSubscribeNack offeringClient client id).1.subscriptionId = s.subscriptionId := by
    rw [onSubscribeNack]
    split
    · rfl
    · exact hremove
  cases hevent with
  | subscribeAck client =>
    rw [handle, onSubscribeAck]
    split
    · rfl
    · split
      · exact hnack client
      · exact (samePending_acknowledgeEach ..).subscriptionId.trans hremove
  | subscribeNack client => exact hnack client
  | unsubscribeAck => exact hremove

/-- If nobody offers the service any more, an acknowledgement is a refusal. -/
lemma handle_subscribeAck_of_stopped (client id : UInt16) :
    s.handle routingClient now (.subscribeAck client id) =
      s.handle routingClient now (.subscribeNack client id) := by
  rw [handle, onSubscribeAck, if_pos rfl]
  split
  · rename_i h
    rw [handle, onSubscribeNack, if_pos h]
  · rfl

section Head

variable {q : PendingSubscription Address Ident} {rest : List (PendingSubscription Address Ident)}
  (hs : s.Consistent) (hq : s.queue r = q :: rest)

include hs hq

/-- The answer to an unsubscription: the subscription behind it is sent. -/
lemma Consistent.handle_unsubscribeAck :
    (s.handle offeringClient now (.unsubscribeAck q.pendingSubscriptionId)).1.Consistent ∧
    (s.handle offeringClient now (.unsubscribeAck q.pendingSubscriptionId)).1.queue =
      Function.update s.queue r (left q rest) ∧
    (s.handle offeringClient now (.unsubscribeAck q.pendingSubscriptionId)).1.endpoints =
      s.endpoints ∧
    (s.handle offeringClient now (.unsubscribeAck q.pendingSubscriptionId)).2 =
      (released q rest).map fun p =>
        .sendSubscription offeringClient p.subscribingClient p.pendingSubscriptionId := by
  obtain ⟨hout, hcons, hqueue⟩ := hs.removePendingSubscription_of_queue hq
  refine ⟨hcons, hqueue, ?_, ?_⟩
  · rw [endpoints, endpoints, ← (removePendingSubscription_frame s q.pendingSubscriptionId).1]
    rfl
  · rw [handle, onUnsubscribeAck, ← hout]

variable (hident : ∀ p ∈ s.queue r, p.isSubscribe → p.sdMessageIdentifier.isSome)

include hident in
/-- A refusal: the subscriptions at the front are refused. -/
lemma Consistent.handle_subscribeNack (client : UInt16) :
    (s.handle offeringClient now (.subscribeNack client q.pendingSubscriptionId)).1.Consistent ∧
    (s.handle offeringClient now (.subscribeNack client q.pendingSubscriptionId)).1.queue =
      Function.update s.queue r (left q rest) ∧
    (s.handle offeringClient now (.subscribeNack client q.pendingSubscriptionId)).1.endpoints =
      s.endpoints ∧
    (s.handle offeringClient now (.subscribeNack client q.pendingSubscriptionId)).2 =
      (released q rest).map (answerOf offeringClient client false) := by
  obtain ⟨hout, hcons, hqueue⟩ := hs.removePendingSubscription_of_queue hq
  have hne := hs.id_ne_of_mem (show q ∈ s.queue r by rw [hq]; exact List.mem_cons_self)
  have heach := refuseEach_eq offeringClient client fun p hp =>
    hident p (hq ▸ mem_of_mem_released (hout ▸ hp))
  rw [handle, onSubscribeNack, if_neg hne]
  refine ⟨hcons, hqueue, ?_, ?_⟩
  · rw [endpoints, endpoints, ← (removePendingSubscription_frame s q.pendingSubscriptionId).1]
  · rw [← hout]
    exact heach

include hident in
/-- An acknowledgement: the subscriptions at the front are accepted, and their endpoints are targets
now. -/
lemma Consistent.handle_subscribeAck (hoffering : offeringClient ≠ routingClient) (client : UInt16) :
    (s.handle offeringClient now (.subscribeAck client q.pendingSubscriptionId)).1.Consistent ∧
    (s.handle offeringClient now (.subscribeAck client q.pendingSubscriptionId)).1.queue =
      Function.update s.queue r (left q rest) ∧
    (s.endpoints.Nodup → (s.handle offeringClient now
      (.subscribeAck client q.pendingSubscriptionId)).1.endpoints.Nodup) ∧
    (∀ e, e ∈ (s.handle offeringClient now
        (.subscribeAck client q.pendingSubscriptionId)).1.endpoints ↔
      e ∈ s.endpoints ∨ ∃ p ∈ released q rest, p.isSubscribe ∧ p.subscriber = e) ∧
    (s.handle offeringClient now (.subscribeAck client q.pendingSubscriptionId)).2 =
      (released q rest).map (answerOf offeringClient client true) := by
  obtain ⟨hout, hcons, hqueue⟩ := hs.removePendingSubscription_of_queue hq
  have hne := hs.id_ne_of_mem (show q ∈ s.queue r by rw [hq]; exact List.mem_cons_self)
  have hend : (s.removePendingSubscription q.pendingSubscriptionId).2.endpoints = s.endpoints := by
    rw [endpoints, endpoints, (removePendingSubscription_frame s q.pendingSubscriptionId).1]
  have hsame := samePending_acknowledgeEach offeringClient client now
    (s.removePendingSubscription q.pendingSubscriptionId).1
    (s.removePendingSubscription q.pendingSubscriptionId).2
  obtain ⟨hcalls, hnodup, hmem⟩ := acknowledgeEach_eq offeringClient client now
    (s := (s.removePendingSubscription q.pendingSubscriptionId).2) fun p hp =>
      hident p (hq ▸ mem_of_mem_released (hout ▸ hp))
  rw [handle, onSubscribeAck, if_neg hne, if_neg hoffering]
  refine ⟨hsame.consistent hcons, hsame.queue_eq.trans hqueue, fun hn => hnodup (hend ▸ hn),
    fun e => ?_, ?_⟩
  · rw [hmem e, hend, hout]
  · rw [← hout]
    exact hcalls

end Head

end Handle

end EventgroupInfo

end Vsomeip
