import Vsomeip.Lib.Runs
import Vsomeip.Routing.PendingQueue

set_option relaxedAutoImplicit false
set_option autoImplicit false

/-!
# Targets of remote subscriptions

Remote endpoints send Subscribe and StopSubscribe entries for an eventgroup that is offered here, and
the hosting application answers what it is sent in the order in which it was sent. A StopSubscribe
takes the endpoint out of the targets when it arrives, while a Subscribe puts it there when it is
acknowledged. So an acknowledgement that comes when another entry of its endpoint already waits
behind it makes the endpoint a target for good. In all other runs an endpoint without pending entries
is a target exactly if its last entry was a Subscribe that was accepted.

## Main definitions

* `Vsomeip.LastEntry` — what has become of the last entry of an endpoint.
* `Vsomeip.Convergence` — an eventgroup, what the hosting application has to answer, and the last
  entries.
* `Vsomeip.Convergence.Converged` — the targets are those whose last entry was accepted.
* `Vsomeip.Convergence.Unhurried` — no acknowledgement is overtaken.

## Main results

* `Vsomeip.Convergence.converged_of_unhurried` — then the targets converge.
* `Vsomeip.Convergence.not_converged_of_stop` — a StopSubscribe before the acknowledgement.
-/

namespace Vsomeip

/-- What has become of the last entry of an endpoint. -/
inductive LastEntry
  | none
  | stopped
  | pending (id : UInt16)
  | accepted
  | rejected
deriving DecidableEq

/-- What the hosting application is sent: an id, and whether it is a subscription. -/
def RemoteOutput.request {Address Ident : Type} : RemoteOutput Address Ident → Option (UInt16 × Bool)
  | .sendSubscription _ _ id => some (id, true)
  | .sendUnsubscription _ _ id => some (id, false)
  | .acknowledge .. => none
  | .callback .. => none

/-- The callback that a subscription was acknowledged at once. -/
def RemoteOutput.isAcked {Address Ident : Type} : RemoteOutput Address Ident → Bool
  | .callback .acked _ => true
  | _ => false

/-- An entry of an endpoint with an id is accepted, or is refused. -/
def RemoteOutput.answers {Address Ident : Type} [DecidableEq Address] (e : EndpointDefinition Address)
    (id : UInt16) (b : Bool) : RemoteOutput Address Ident → Bool
  | .acknowledge _ accepted entry =>
    accepted == b && entry.subscriber == e && entry.pendingSubscriptionId == id
  | .sendSubscription .. => false
  | .sendUnsubscription .. => false
  | .callback .. => false

/-- What has become of the last entry of an endpoint after some calls. -/
def LastEntry.after {Address Ident : Type} [DecidableEq Address]
    (calls : List (RemoteOutput Address Ident)) (e : EndpointDefinition Address) :
    LastEntry → LastEntry
  | .pending id =>
    if calls.any (·.answers e id true) then .accepted
    else if calls.any (·.answers e id false) then .rejected
    else .pending id
  | last => last

/-- An eventgroup, what the hosting application was sent and has not answered, and what has become of
the last entry of each endpoint. -/
structure Convergence (Address Ident : Type) where
  info : EventgroupInfo Address Ident
  inbox : List (UInt16 × Bool)
  last : EndpointDefinition Address → LastEntry

/-- What can happen: an entry arrives, or the hosting application answers what it was sent first,
and accepts it or not if it is a subscription. -/
inductive RemoteAction (Address Ident : Type)
  | subscribe (now : ℕ) (subscriber target : EndpointDefinition Address)
      (ttl : { t : UInt32 // 0 < t }) (sdMessageId : Ident) (client : UInt16)
  | stopSubscribe (target : EndpointDefinition Address) (client : UInt16)
  | answer (now : ℕ) (client : UInt16) (accept : Bool)

namespace Convergence

variable {Address Ident : Type} [DecidableEq Address]

/-- A new eventgroup. -/
def init (isMulticast : Bool) : Convergence Address Ident :=
  { info := .init isMulticast, inbox := [], last := fun _ => .none }

/-- The answer to a request. -/
def answerTo (client : UInt16) (accept : Bool) : UInt16 × Bool → RemoteEvent Address Ident
  | (id, true) => if accept then .subscribeAck client id else .subscribeNack client id
  | (id, false) => .unsubscribeAck id

/-- One step, for a service that is offered by a client. -/
def step (offering : { c : UInt16 // c ≠ routingClient }) (s : Convergence Address Ident) :
    RemoteAction Address Ident → Convergence Address Ident
  | .subscribe now subscriber target ttl sdMessageId client =>
    let (info, calls) :=
      s.info.handle offering.1 now (.subscribe subscriber target ttl sdMessageId client)
    { info
      inbox := s.inbox ++ calls.filterMap (·.request)
      last := Function.update s.last subscriber
        (if calls.any (·.isAcked) then .accepted
          else .pending info.subscriptionId) }
  | .stopSubscribe target client =>
    let (info, calls) := s.info.handle offering.1 0 (.stopSubscribe target client)
    { info
      inbox := s.inbox ++ calls.filterMap (·.request)
      last := Function.update s.last target .stopped }
  | .answer now client accept =>
    match s.inbox with
    | [] => s
    | request :: inbox =>
      let (info, calls) := s.info.handle offering.1 now (answerTo client accept request)
      { info
        inbox := inbox ++ calls.filterMap (·.request)
        last := fun e => (s.last e).after calls e }

/-- Every endpoint of which nothing is pending is a target exactly if its last entry was a Subscribe
that was accepted. -/
def Converged (s : Convergence Address Ident) : Prop :=
  ∀ e, (∀ id p, s.info.pendingSubscriptions id = some p → p.subscriber ≠ e) →
    (e ∈ s.info.endpoints ↔ s.last e = .accepted)

/-- An entry gets an id that is not pending, and a Subscribe is acknowledged only if behind the
Subscribes that are acknowledged with it there is no further entry of their endpoints. -/
def Unhurried (s : Convergence Address Ident) : RemoteAction Address Ident → Prop
  | .subscribe _ subscriber .. =>
    subscriber ∉ s.info.endpoints → s.info.pendingSubscriptions s.info.nextId = none
  | .stopSubscribe .. => s.info.pendingSubscriptions s.info.nextId = none
  | .answer _ _ false => True
  | .answer _ _ true => ∀ r q rest, s.info.queue r = q :: rest →
      s.inbox.head? = some (q.pendingSubscriptionId, true) →
      ∀ p ∈ EventgroupInfo.taken q rest, ∀ p' ∈ EventgroupInfo.left q rest,
        p'.subscriber ≠ p.subscriber

/-! ## The invariant -/

/-- The endpoint of the last entry in its queue: the last entry of the endpoint is this one. -/
structure IsLastIn (queue : List (PendingSubscription Address Ident))
    (q : PendingSubscription Address Ident) : Prop where
  split : ∃ before after, queue = before ++ q :: after ∧ ∀ p ∈ after, p.subscriber ≠ q.subscriber

/-- The requests are the first entries of queues, no target has pending entries, the targets are
those whose last entry was accepted, and the last entry in the queue of an endpoint is its last
one. -/
structure Inv (s : Convergence Address Ident) : Prop where
  consistent : s.info.Consistent
  idents : ∀ {r q}, q ∈ s.info.queue r → q.isSubscribe → q.sdMessageIdentifier.isSome
  nodup : s.info.endpoints.Nodup
  inbox : ∀ x ∈ s.inbox, ∃ r q rest, s.info.queue r = q :: rest ∧
    x = (q.pendingSubscriptionId, q.isSubscribe)
  inboxNodup : (s.inbox.map Prod.fst).Nodup
  free : ∀ {r q}, q ∈ s.info.queue r → q.subscriber ∉ s.info.endpoints
  target : ∀ e, e ∈ s.info.endpoints ↔ s.last e = .accepted
  lastPending : ∀ {r q}, IsLastIn (s.info.queue r) q →
    s.last q.subscriber = if q.isSubscribe then .pending q.pendingSubscriptionId else .stopped

section Inv

variable {s : Convergence Address Ident} {info : EventgroupInfo Address Ident}
  {r : Address × UInt16} {p q : PendingSubscription Address Ident}
  {rest : List (PendingSubscription Address Ident)}

omit [DecidableEq Address] in
/-- The invariant holds at the start. -/
lemma inv_init (isMulticast : Bool) : (init isMulticast : Convergence Address Ident).Inv where
  consistent := EventgroupInfo.consistent_init isMulticast
  idents := fun hq => by cases hq
  nodup := List.nodup_nil
  inbox := fun x hx => by cases hx
  inboxNodup := List.nodup_nil
  free := fun hq => by cases hq
  target := fun e => iff_of_false List.not_mem_nil (by simp [init])
  lastPending := fun ⟨before, after, h, _⟩ => by simp [init] at h

omit [DecidableEq Address] in
/-- The last entry of a queue is in it. -/
lemma IsLastIn.mem {queue : List (PendingSubscription Address Ident)} (h : IsLastIn queue q) :
    q ∈ queue := by
  obtain ⟨before, after, rfl, -⟩ := h.split
  exact List.mem_append_right before List.mem_cons_self

omit [DecidableEq Address] in
/-- The last entry of an endpoint behind a further entry. -/
lemma IsLastIn.of_append {queue : List (PendingSubscription Address Ident)}
    (h : IsLastIn (queue ++ [p]) q) : q = p ∨ q.subscriber ≠ p.subscriber ∧ IsLastIn queue q := by
  obtain ⟨before, after, hsplit, hlast⟩ := h.split
  rcases List.eq_nil_or_concat after with rfl | ⟨after, p', rfl⟩
  · exact .inl (List.cons.inj (List.append_inj_right' hsplit rfl)).1.symm
  · rw [List.concat_eq_append] at hsplit hlast
    rw [← List.cons_append, ← List.append_assoc] at hsplit
    obtain ⟨rfl, hp⟩ := List.append_inj' hsplit rfl
    obtain rfl := (List.cons.inj hp).1
    refine .inr ⟨(hlast p (List.mem_append_right _ List.mem_cons_self)).symm, before, after, rfl, ?_⟩
    exact fun p' hp' => hlast p' (List.mem_append_left _ hp')

omit [DecidableEq Address] in
/-- In a suffix of a queue it is also the last one in the queue. -/
lemma IsLastIn.of_suffix {queue queue' : List (PendingSubscription Address Ident)}
    (h : IsLastIn queue' q) (hsuffix : queue' <:+ queue) : IsLastIn queue q := by
  obtain ⟨before, after, rfl, hlast⟩ := h.split
  obtain ⟨front, rfl⟩ := hsuffix
  exact ⟨front ++ before, after, by rw [List.append_assoc], hlast⟩

/-- Each endpoint with an entry in a queue has a last one there. -/
lemma exists_isLastIn {queue : List (PendingSubscription Address Ident)} (h : p ∈ queue) :
    ∃ q, IsLastIn queue q ∧ q.subscriber = p.subscriber := by
  induction queue generalizing p with
  | nil => cases h
  | cons p' queue ih =>
    by_cases hin : ∃ p'' ∈ queue, p''.subscriber = p.subscriber
    · obtain ⟨p'', hp'', heq⟩ := hin
      obtain ⟨q, hq, hqp⟩ := ih hp''
      exact ⟨q, hq.of_suffix (List.suffix_cons p' queue), hqp.trans heq⟩
    · push Not at hin
      obtain rfl : p = p' := (List.mem_cons.mp h).resolve_right fun h => hin p h rfl
      exact ⟨p, ⟨[], queue, rfl, hin⟩, rfl⟩

/-- The answers to the entries that are taken. -/
lemma any_answers_iff {queue : List (PendingSubscription Address Ident)} {e : EndpointDefinition Address}
    {id : UInt16} (offeringClient client : UInt16) (accepted b : Bool) :
    (queue.map (EventgroupInfo.answerOf offeringClient client accepted)).any (·.answers e id b) =
        true ↔
      accepted = b ∧ ∃ p ∈ queue, p.isSubscribe = true ∧ p.subscriber = e ∧
        p.pendingSubscriptionId = id := by
  rw [List.any_map, List.any_eq_true]
  constructor
  · rintro ⟨p, hp, h⟩
    rw [Function.comp_apply, EventgroupInfo.answerOf] at h
    split at h
    · rename_i hsub
      simp only [RemoteOutput.answers, Bool.and_eq_true, beq_iff_eq] at h
      exact ⟨h.1.1, p, hp, hsub, h.1.2, h.2⟩
    · cases h
  · rintro ⟨rfl, p, hp, hsub, rfl, rfl⟩
    refine ⟨p, hp, ?_⟩
    rw [Function.comp_apply, EventgroupInfo.answerOf, if_pos hsub]
    simp [RemoteOutput.answers]

omit [DecidableEq Address] in
/-- The ids of the requests are pending. -/
lemma Inv.exists_pending_of_inbox (hs : s.Inv) {id : UInt16} (hid : id ∈ s.inbox.map Prod.fst) :
    ∃ p, s.info.pendingSubscriptions id = some p := by
  obtain ⟨x, hx, rfl⟩ := List.mem_map.mp hid
  obtain ⟨r, q, rest, hq, rfl⟩ := hs.inbox x hx
  obtain ⟨-, p, hp, -⟩ := hs.consistent.mem_queue_iff.mp
    (show q ∈ s.info.queue r by rw [hq]; exact List.mem_cons_self)
  exact ⟨p, hp⟩

/-- The last entry of an endpoint when an entry has been put at the end of its queue. -/
lemma Inv.isLastIn_of_entry (hs : s.Inv)
    (hqueue : info.queue = Function.update s.info.queue p.subscriber.remote
      (s.info.queue p.subscriber.remote ++ [p.withId s.info.nextId]))
    (hq : IsLastIn (info.queue r) q) :
    q = p.withId s.info.nextId ∨ q.subscriber ≠ p.subscriber ∧ IsLastIn (s.info.queue r) q := by
  rw [hqueue] at hq
  by_cases hr : r = p.subscriber.remote
  · subst hr
    rw [Function.update_self] at hq
    exact hq.of_append
  · rw [Function.update_of_ne hr] at hq
    refine .inr ⟨fun heq => hr ?_, hq⟩
    rw [← hs.consistent.remote_of_mem hq.mem, heq]

/-- **An entry is put at the end of its queue.** -/
lemma Inv.of_entry (hs : s.Inv) (hfresh : s.info.pendingSubscriptions s.info.nextId = none)
    (hcons : info.Consistent)
    (hqueue : info.queue = Function.update s.info.queue p.subscriber.remote
      (s.info.queue p.subscriber.remote ++ [p.withId s.info.nextId]))
    (hident : p.isSubscribe → p.sdMessageIdentifier.isSome)
    (hnodup : info.endpoints.Nodup) (hmem : ∀ e, e ∈ info.endpoints ↔ e ∈ s.info.endpoints ∧
      e ≠ p.subscriber) :
    ({ info
       inbox := s.inbox ++ if s.info.queue p.subscriber.remote = []
        then [(s.info.nextId, p.isSubscribe)] else []
       last := Function.update s.last p.subscriber
        (if p.isSubscribe then .pending s.info.nextId else .stopped) } :
      Convergence Address Ident).Inv := by
  have hcases {r : Address × UInt16} {q : PendingSubscription Address Ident}
      (hq : q ∈ info.queue r) : q ∈ s.info.queue r ∨ q = p.withId s.info.nextId :=
    ((EventgroupInfo.mem_queue_of_append hqueue).mp hq).imp_right And.right
  refine
    { consistent := hcons
      idents := fun {r q} hq => ?_
      nodup := hnodup
      inbox := fun x hx => ?_
      inboxNodup := ?_
      free := fun {r q} hq => ?_
      target := fun e => ?_
      lastPending := fun {r q} hq => ?_ }
  · rcases hcases hq with hq | rfl
    · exact hs.idents hq
    · exact hident
  · rcases List.mem_append.mp hx with hx | hx
    · obtain ⟨r, q, rest, hq, rfl⟩ := hs.inbox x hx
      obtain ⟨rest', hnew, -⟩ := EventgroupInfo.queue_cons_of_append hqueue hq
      exact ⟨r, q, rest', hnew, rfl⟩
    · split at hx
      · rename_i hnil
        refine ⟨p.subscriber.remote, p.withId s.info.nextId, [], ?_, List.mem_singleton.mp hx⟩
        change info.queue _ = _
        rw [hqueue, Function.update_self, hnil, List.nil_append]
      · cases hx
  · rw [List.map_append]
    refine hs.inboxNodup.append ?_ fun id hid hid' => ?_
    · split
      · exact List.nodup_singleton _
      · exact List.nodup_nil
    · obtain ⟨p', hp'⟩ := hs.exists_pending_of_inbox hid
      split at hid'
      · rw [show id = s.info.nextId from List.mem_singleton.mp hid', hfresh] at hp'
        cases hp'
      · cases hid'
  · change q.subscriber ∉ info.endpoints
    rw [hmem]
    rcases hcases hq with hq | rfl
    · exact fun h => hs.free hq h.1
    · exact fun h => h.2 rfl
  · change e ∈ info.endpoints ↔ Function.update _ _ _ e = _
    rw [hmem]
    by_cases he : e = p.subscriber
    · subst he
      rw [Function.update_self]
      refine iff_of_false (fun h => h.2 rfl) ?_
      split <;> exact fun h => by cases h
    · rw [Function.update_of_ne he, and_iff_left he]
      exact hs.target e
  · change IsLastIn (info.queue r) q at hq
    change Function.update _ _ _ q.subscriber = _
    rcases hs.isLastIn_of_entry hqueue hq with rfl | ⟨hne, hlast⟩
    · exact Function.update_self ..
    · rw [Function.update_of_ne hne]
      exact hs.lastPending hlast

/-- **The first request is answered.** What is left of its queue is sent next. -/
lemma Inv.of_answer (hs : s.Inv) {inbox : List (UInt16 × Bool)}
    (hinbox : s.inbox = (q.pendingSubscriptionId, q.isSubscribe) :: inbox)
    (hq : s.info.queue r = q :: rest) (hcons : info.Consistent)
    (hqueue : info.queue = Function.update s.info.queue r (EventgroupInfo.left q rest))
    (hnodup : info.endpoints.Nodup) {last : EndpointDefinition Address → LastEntry}
    (hfree : ∀ {r' p}, p ∈ info.queue r' → p.subscriber ∉ info.endpoints)
    (htarget : ∀ e, e ∈ info.endpoints ↔ last e = .accepted)
    (hlast : ∀ {r' p}, IsLastIn (info.queue r') p → last p.subscriber = s.last p.subscriber) :
    ({ info
       inbox := inbox ++ (EventgroupInfo.left q rest).head?.toList.map
        fun p => (p.pendingSubscriptionId, p.isSubscribe)
       last } : Convergence Address Ident).Inv := by
  have hsuffix := EventgroupInfo.queue_suffix_of_left hqueue hq
  have hinboxNodup := hs.inboxNodup
  rw [hinbox, List.map_cons, List.nodup_cons] at hinboxNodup
  -- the other requests are of other remotes
  have hothers : ∀ x ∈ inbox, ∃ r' q' rest', r' ≠ r ∧ s.info.queue r' = q' :: rest' ∧
      x = (q'.pendingSubscriptionId, q'.isSubscribe) := by
    intro x hx
    obtain ⟨r', q', rest', hq', rfl⟩ := hs.inbox x (hinbox ▸ List.mem_cons_of_mem _ hx)
    refine ⟨r', q', rest', ?_, hq', rfl⟩
    rintro rfl
    rw [hq] at hq'
    obtain rfl := (List.cons.inj hq').1
    exact hinboxNodup.1 (List.mem_map_of_mem hx)
  refine
    { consistent := hcons
      idents := fun hp => hs.idents ((hsuffix _).subset hp)
      nodup := hnodup
      inbox := fun x hx => ?_
      inboxNodup := ?_
      free := hfree
      target := htarget
      lastPending := fun {r' p} hp => (hlast hp).trans (hs.lastPending (hp.of_suffix (hsuffix r'))) }
  · change ∃ r' q' rest', info.queue r' = q' :: rest' ∧ _
    rw [hqueue]
    rcases List.mem_append.mp hx with hx | hx
    · obtain ⟨r', q', rest', hr, hq', rfl⟩ := hothers x hx
      exact ⟨r', q', rest', (Function.update_of_ne hr _ _).trans hq', rfl⟩
    · obtain ⟨p, hp, rfl⟩ := List.mem_map.mp hx
      rw [Option.mem_toList] at hp
      obtain ⟨rest', hrest'⟩ := List.head?_eq_some_iff.mp hp
      exact ⟨r, p, rest', (Function.update_self ..).trans hrest', rfl⟩
  · rw [List.map_append, List.map_map]
    refine hinboxNodup.2.append ?_ fun id hid hid' => ?_
    · cases (EventgroupInfo.left q rest).head? with
      | none => exact List.nodup_nil
      | some p => exact List.nodup_singleton _
    · obtain ⟨x, hx, rfl⟩ := List.mem_map.mp hid
      obtain ⟨r', q', rest', hr, hq', rfl⟩ := hothers x hx
      obtain ⟨p, hp, hpq⟩ := List.mem_map.mp hid'
      rw [Option.mem_toList] at hp
      have hp : p ∈ s.info.queue r := by
        rw [hq]
        exact List.mem_cons_of_mem q (EventgroupInfo.left_suffix.subset (List.mem_of_mem_head? hp))
      exact hs.consistent.id_ne_of_remote_ne hp (hq' ▸ List.mem_cons_self) hr hpq

/-- What has become of a last entry after the answers to what is released with a subscription. -/
lemma after_released (hsub : q.isSubscribe = true) (offeringClient client : UInt16) (accepted : Bool)
    (e : EndpointDefinition Address) (l : LastEntry) :
    l.after ((EventgroupInfo.released q rest).map
        (EventgroupInfo.answerOf offeringClient client accepted)) e =
      if ∃ p ∈ EventgroupInfo.taken q rest, p.subscriber = e ∧ l = .pending p.pendingSubscriptionId
      then (if accepted then .accepted else .rejected) else l := by
  have htaken {id : UInt16} : (∃ p ∈ EventgroupInfo.released q rest, p.isSubscribe = true ∧
      p.subscriber = e ∧ p.pendingSubscriptionId = id) ↔
      ∃ p ∈ EventgroupInfo.taken q rest, p.subscriber = e ∧
        LastEntry.pending id = .pending p.pendingSubscriptionId := by
    constructor
    · rintro ⟨p, hp, hpsub, he, rfl⟩
      rcases List.mem_append.mp hp with hp | hp
      · exact ⟨p, hp, he, rfl⟩
      · rw [EventgroupInfo.head_left (Option.mem_toList.mp hp), hsub] at hpsub
        cases hpsub
    · rintro ⟨p, hp, he, hid⟩
      exact ⟨p, List.mem_append_left _ hp, (EventgroupInfo.mem_taken hp).2, he,
        (LastEntry.pending.inj hid).symm⟩
  cases l with
  | pending id =>
    simp only [LastEntry.after, any_answers_iff, htaken]
    cases accepted <;> simp
  | _ => simp [LastEntry.after]

omit [DecidableEq Address] in
/-- The requests that the calls for what is released with a subscription lead to. -/
lemma request_answerOf (hsub : q.isSubscribe = true) (offeringClient client : UInt16)
    (accepted : Bool) :
    ((EventgroupInfo.released q rest).map
        (EventgroupInfo.answerOf offeringClient client accepted)).filterMap (·.request) =
      (EventgroupInfo.left q rest).head?.toList.map
        fun p => (p.pendingSubscriptionId, p.isSubscribe) := by
  have htaken : (EventgroupInfo.taken q rest).filterMap (RemoteOutput.request ∘
      EventgroupInfo.answerOf offeringClient client accepted) = [] :=
    List.filterMap_eq_nil_iff.mpr fun p hp => by
      rw [Function.comp_apply, EventgroupInfo.answerOf, if_pos (EventgroupInfo.mem_taken hp).2]
      rfl
  rw [EventgroupInfo.released, List.filterMap_map, List.filterMap_append, htaken, List.nil_append,
    ← List.filterMap_eq_map]
  refine List.filterMap_congr fun p hp => ?_
  have hp := EventgroupInfo.head_left (Option.mem_toList.mp hp)
  rw [hsub] at hp
  rw [Function.comp_apply, EventgroupInfo.answerOf, if_neg (by simp [hp]), Function.comp_apply, hp]
  rfl

omit [DecidableEq Address] in
/-- The requests that the calls for what is released with an unsubscription lead to. -/
lemma request_sendSubscription (hsub : q.isSubscribe = false) (offeringClient : UInt16) :
    ((EventgroupInfo.released q rest).map fun p => (RemoteOutput.sendSubscription offeringClient
        p.subscribingClient p.pendingSubscriptionId : RemoteOutput Address Ident)).filterMap
          (·.request) =
      (EventgroupInfo.left q rest).head?.toList.map
        fun p => (p.pendingSubscriptionId, p.isSubscribe) := by
  rw [EventgroupInfo.released, EventgroupInfo.taken, if_neg (by simp [hsub]), List.nil_append,
    List.filterMap_map, ← List.filterMap_eq_map]
  refine List.filterMap_congr fun p hp => ?_
  have hp := EventgroupInfo.head_left (Option.mem_toList.mp hp)
  rw [hsub] at hp
  rw [Function.comp_apply, Function.comp_apply, hp]
  rfl

/-- These calls answer no entry. -/
lemma after_sendSubscription (offeringClient : UInt16)
    (released : List (PendingSubscription Address Ident)) (e : EndpointDefinition Address)
    (l : LastEntry) :
    l.after (released.map fun p => (RemoteOutput.sendSubscription offeringClient
      p.subscribingClient p.pendingSubscriptionId : RemoteOutput Address Ident)) e = l := by
  cases l <;> simp [LastEntry.after, RemoteOutput.answers]

/-- The answer to a subscription. -/
lemma Inv.handle_answerTo (hs : s.Inv) (offering : { c : UInt16 // c ≠ routingClient }) (now : ℕ)
    (client : UInt16) (accept : Bool) (hq : s.info.queue r = q :: rest)
    (hsub : q.isSubscribe = true) :
    let result := s.info.handle offering.1 now
      (answerTo client accept (q.pendingSubscriptionId, true))
    result.1.Consistent ∧
    result.1.queue = Function.update s.info.queue r (EventgroupInfo.left q rest) ∧
    result.1.endpoints.Nodup ∧
    (∀ e, e ∈ result.1.endpoints ↔ e ∈ s.info.endpoints ∨
      accept = true ∧ ∃ p ∈ EventgroupInfo.taken q rest, p.subscriber = e) ∧
    result.2 = (EventgroupInfo.released q rest).map
      (EventgroupInfo.answerOf offering.1 client accept) := by
  cases accept with
  | false =>
    obtain ⟨hcons, hqueue, hend, hcalls⟩ := hs.consistent.handle_subscribeNack offering.1 now hq
      (fun p hp => hs.idents hp) client
    exact ⟨hcons, hqueue, hend.symm ▸ hs.nodup, fun e => by simp [answerTo, hend], hcalls⟩
  | true =>
    obtain ⟨hcons, hqueue, hnodup, hmem, hcalls⟩ := hs.consistent.handle_subscribeAck offering.1 now
      hq (fun p hp => hs.idents hp) offering.2 client
    refine ⟨hcons, hqueue, hnodup hs.nodup, fun e => (hmem e).trans ?_, hcalls⟩
    refine or_congr_right ?_
    constructor
    · rintro ⟨p, hp, hpsub, he⟩
      rcases List.mem_append.mp hp with hp | hp
      · exact ⟨rfl, p, hp, he⟩
      · rw [EventgroupInfo.head_left (Option.mem_toList.mp hp), hsub] at hpsub
        cases hpsub
    · rintro ⟨-, p, hp, he⟩
      exact ⟨p, List.mem_append_left _ hp, (EventgroupInfo.mem_taken hp).2, he⟩

/-- The state after an answer to the first request. -/
lemma step_answer {offering : { c : UInt16 // c ≠ routingClient }} {now : ℕ} {client : UInt16}
    {accept : Bool} {request : UInt16 × Bool} {inbox : List (UInt16 × Bool)}
    (hinbox : s.inbox = request :: inbox) :
    s.step offering (.answer now client accept) =
      { info := (s.info.handle offering.1 now (answerTo client accept request)).1
        inbox := inbox ++ (s.info.handle offering.1 now
          (answerTo client accept request)).2.filterMap (·.request)
        last := fun e => (s.last e).after
          (s.info.handle offering.1 now (answerTo client accept request)).2 e } := by
  simp only [step, hinbox]

/-- An entry with the endpoint of one that is in a queue is in what is left of this queue, if it is
in any. -/
lemma Inv.eq_of_subscriber_eq (hs : s.Inv) {r' : Address × UInt16}
    {p' : PendingSubscription Address Ident} {left : List (PendingSubscription Address Ident)}
    (hp : p ∈ s.info.queue r)
    (hp' : p' ∈ Function.update s.info.queue r left r') (heq : p'.subscriber = p.subscriber) :
    r' = r := by
  by_contra hr
  rw [Function.update_of_ne hr] at hp'
  exact hr ((hs.consistent.remote_of_mem hp').symm.trans
    ((congrArg EndpointDefinition.remote heq).trans (hs.consistent.remote_of_mem hp)))

/-- **A subscription is answered.** The endpoints of the subscriptions that are accepted become
targets, and by assumption these were their last entries. -/
lemma Inv.step_answer_subscribe (hs : s.Inv) {offering : { c : UInt16 // c ≠ routingClient }}
    {now : ℕ} {client : UInt16} {accept : Bool} {inbox : List (UInt16 × Bool)}
    (hinbox : s.inbox = (q.pendingSubscriptionId, true) :: inbox)
    (hq : s.info.queue r = q :: rest) (hsub : q.isSubscribe = true)
    (hbehind : accept = true → ∀ p ∈ EventgroupInfo.taken q rest,
      ∀ p' ∈ EventgroupInfo.left q rest, p'.subscriber ≠ p.subscriber) :
    (s.step offering (.answer now client accept)).Inv := by
  obtain ⟨hcons, hqueue, hnodup, hmemEnd, hcalls⟩ :=
    hs.handle_answerTo offering now client accept hq hsub
  have hmem {p : PendingSubscription Address Ident} (hp : p ∈ EventgroupInfo.taken q rest) :
      p ∈ s.info.queue r := hq ▸ EventgroupInfo.taken_sublist.subset hp
  have hsuffix : EventgroupInfo.left q rest <:+ s.info.queue r :=
    hq ▸ EventgroupInfo.left_suffix.trans (List.suffix_cons q rest)
  rw [step_answer hinbox, hcalls, request_answerOf hsub]
  refine hs.of_answer (by rw [hsub]; exact hinbox) hq hcons hqueue hnodup ?_ ?_ ?_
  · intro r' p hp he
    rcases (hmemEnd _).mp he with he | ⟨haccept, p', hp', he⟩
    · exact hs.free ((EventgroupInfo.queue_suffix_of_left hqueue hq r').subset hp) he
    · rw [hqueue] at hp
      obtain rfl := hs.eq_of_subscriber_eq (hmem hp') hp he.symm
      rw [Function.update_self] at hp
      exact hbehind haccept p' hp' p hp he.symm
  · intro e
    rw [hmemEnd, after_released hsub]
    split
    · rename_i hanswered
      obtain ⟨p, hp, he, hlast⟩ := hanswered
      have hnot : e ∉ s.info.endpoints := fun h => by rw [(hs.target e).mp h] at hlast; cases hlast
      cases accept with
      | false => simp [hnot]
      | true => simpa using .inr ⟨p, hp, he⟩
    · rename_i hanswered
      rw [← hs.target, or_iff_left_iff_imp]
      rintro ⟨haccept, p, hp, rfl⟩
      -- the last entry of the endpoint is among those that are taken
      obtain ⟨q', hlast, hq'⟩ := exists_isLastIn (hmem hp)
      have htaken := (EventgroupInfo.mem_taken_or_left hsub (hq ▸ hlast.mem)).resolve_right
        fun hleft => hbehind haccept p hp q' hleft hq'
      refine absurd ⟨q', htaken, hq', ?_⟩ hanswered
      rw [← hq', hs.lastPending hlast, if_pos (EventgroupInfo.mem_taken htaken).2]
  · intro r' p hp
    rw [after_released hsub, if_neg]
    rintro ⟨p', hp', hsubscriber, hlast⟩
    have hleft : p ∈ EventgroupInfo.left q rest ∧ IsLastIn (s.info.queue r) p := by
      rw [hqueue] at hp
      obtain rfl := hs.eq_of_subscriber_eq (hmem hp') hp.mem hsubscriber.symm
      rw [Function.update_self] at hp
      exact ⟨hp.mem, hp.of_suffix hsuffix⟩
    rw [hs.lastPending hleft.2] at hlast
    split at hlast
    · have hid := LastEntry.pending.inj hlast
      obtain rfl := hs.consistent.eq_of_id_eq hleft.2.mem (hmem hp') hid
      exact hs.consistent.notMem_left hq hp' hleft.1
    · cases hlast

/-- An unsubscription is answered. -/
lemma Inv.step_answer_unsubscribe (hs : s.Inv) {offering : { c : UInt16 // c ≠ routingClient }}
    {now : ℕ} {client : UInt16} {accept : Bool} {inbox : List (UInt16 × Bool)}
    (hinbox : s.inbox = (q.pendingSubscriptionId, false) :: inbox)
    (hq : s.info.queue r = q :: rest) (hsub : q.isSubscribe = false) :
    (s.step offering (.answer now client accept)).Inv := by
  obtain ⟨hcons, hqueue, hend, hcalls⟩ := hs.consistent.handle_unsubscribeAck offering.1 now hq
  have hevent : (answerTo client accept (q.pendingSubscriptionId, false) :
      RemoteEvent Address Ident) = .unsubscribeAck q.pendingSubscriptionId := rfl
  rw [step_answer hinbox, hevent, hcalls, request_sendSubscription hsub]
  simp only [after_sendSubscription]
  refine hs.of_answer (by rw [hsub]; exact hinbox) hq hcons hqueue (hend.symm ▸ hs.nodup) ?_ ?_
    fun _ => rfl
  · intro r' p hp
    rw [hend]
    exact hs.free ((EventgroupInfo.queue_suffix_of_left hqueue hq r').subset hp)
  · exact fun e => by rw [hend]; exact hs.target e

omit [DecidableEq Address] in
/-- The calls for a Subscribe that is put into a queue accept nothing. -/
lemma any_isAcked_subscribe (sent : Prop) [Decidable sent] (offeringClient client id : UInt16) :
    ((if sent then [.sendSubscription offeringClient client id] else []) ++
      [.callback .pending client] : List (RemoteOutput Address Ident)).any (·.isAcked) = false := by
  split <;> rfl

/-- A Subscribe of a target only renews it. -/
lemma Inv.step_renew (hs : s.Inv) {offering : { c : UInt16 // c ≠ routingClient }} {now : ℕ}
    {e : EndpointDefinition Address} (he : e ∈ s.info.endpoints) (target : EndpointDefinition Address)
    (ttl : { t : UInt32 // 0 < t }) (sdMessageId : Ident) (client : UInt16) :
    (s.step offering (.subscribe now e target ttl sdMessageId client)).Inv := by
  obtain ⟨hsame, hend, hcalls⟩ := EventgroupInfo.handle_subscribe_of_mem offering.1 now he target
    ttl sdMessageId client
  have hlast : Function.update s.last e .accepted = s.last :=
    Function.update_eq_self_iff.mpr ((hs.target e).mp he).symm
  have hqueue := hsame.queue_eq
  simp only [Convergence.step, hcalls]
  change Inv { info := _, inbox := s.inbox ++ [], last := Function.update s.last e .accepted }
  rw [List.append_nil, hlast]
  exact
    { consistent := hsame.consistent hs.consistent
      idents := fun {r q} hq => hs.idents (hqueue ▸ hq : q ∈ s.info.queue r)
      nodup := hend.symm ▸ hs.nodup
      inbox := fun x hx => by rw [hqueue]; exact hs.inbox x hx
      inboxNodup := hs.inboxNodup
      free := fun {r q} hq => hend.symm ▸ hs.free (hqueue ▸ hq : q ∈ s.info.queue r)
      target := fun e => by rw [hend]; exact hs.target e
      lastPending := fun {r q} hq => hs.lastPending (by rw [hqueue] at hq; exact hq) }

/-- A Subscribe of another endpoint is put into its queue. -/
lemma Inv.step_subscribe (hs : s.Inv) {offering : { c : UInt16 // c ≠ routingClient }} {now : ℕ}
    {e : EndpointDefinition Address} (he : e ∉ s.info.endpoints)
    (hfresh : s.info.pendingSubscriptions s.info.nextId = none)
    (target : EndpointDefinition Address) (ttl : { t : UInt32 // 0 < t }) (sdMessageId : Ident)
    (client : UInt16) : (s.step offering (.subscribe now e target ttl sdMessageId client)).Inv := by
  obtain ⟨hcons, hqueue, hend, hinfo, hcalls⟩ :=
    hs.consistent.handle_subscribe_of_notMem offering.1 now hfresh he target ttl sdMessageId client
  have hentry := hs.of_entry (p := EventgroupInfo.subscription e target ttl.1 sdMessageId client)
    hfresh hcons hqueue (fun _ => rfl) (hend.symm ▸ hs.nodup) fun e' => by
      rw [hend]
      refine ⟨fun h => ⟨h, ?_⟩, And.left⟩
      rintro rfl
      exact he h
  rw [EventgroupInfo.isSubscribe_subscription, if_pos rfl] at hentry
  have hrequest : ((if s.info.queue e.remote = []
        then [RemoteOutput.sendSubscription offering.1 client s.info.nextId] else []) ++
      [.callback .pending client] : List (RemoteOutput Address Ident)).filterMap (·.request) =
        if s.info.queue e.remote = [] then [(s.info.nextId, true)] else [] := by
    split <;> rfl
  simp only [Convergence.step, hcalls, hinfo, hrequest, any_isAcked_subscribe, Bool.false_eq_true,
    if_false]
  exact hentry

/-- A StopSubscribe is put into its queue, and its endpoint is no target any more. -/
lemma Inv.step_stopSubscribe (hs : s.Inv) {offering : { c : UInt16 // c ≠ routingClient }}
    (hfresh : s.info.pendingSubscriptions s.info.nextId = none) (e : EndpointDefinition Address)
    (client : UInt16) : (s.step offering (.stopSubscribe e client)).Inv := by
  obtain ⟨hcons, hqueue, hend, -, hcalls⟩ :=
    hs.consistent.handle_stopSubscribe offering.1 0 hfresh e client
  have hentry := hs.of_entry (p := EventgroupInfo.unsubscription e client) hfresh hcons hqueue
    (fun h => by simp at h) (hend.symm ▸ hs.nodup.erase e) fun e' => by
      rw [hend, hs.nodup.mem_erase_iff, and_comm]
      rfl
  rw [EventgroupInfo.isSubscribe_unsubscription] at hentry
  have hrequest : (if s.info.queue e.remote = []
        then [RemoteOutput.sendUnsubscription offering.1 client s.info.nextId] else [] :
      List (RemoteOutput Address Ident)).filterMap (·.request) =
        if s.info.queue e.remote = [] then [(s.info.nextId, false)] else [] := by
    split <;> rfl
  simp only [Convergence.step, hcalls, hrequest]
  exact hentry

/-- **Each step keeps the invariant** if no acknowledgement is overtaken. -/
lemma Inv.step (hs : s.Inv) {offering : { c : UInt16 // c ≠ routingClient }}
    {action : RemoteAction Address Ident} (hunhurried : s.Unhurried action) :
    (s.step offering action).Inv := by
  cases action with
  | subscribe now e target ttl sdMessageId client =>
    by_cases he : e ∈ s.info.endpoints
    · exact hs.step_renew he target ttl sdMessageId client
    · exact hs.step_subscribe he (hunhurried he) target ttl sdMessageId client
  | stopSubscribe e client => exact hs.step_stopSubscribe hunhurried e client
  | answer now client accept =>
    cases hinbox : s.inbox with
    | nil =>
      simp only [Convergence.step, hinbox]
      exact hs
    | cons request inbox =>
      obtain ⟨r, q, rest, hq, rfl⟩ := hs.inbox request (hinbox ▸ List.mem_cons_self)
      cases hsub : q.isSubscribe with
      | false => exact hs.step_answer_unsubscribe (hsub ▸ hinbox) hq hsub
      | true =>
        refine hs.step_answer_subscribe (hsub ▸ hinbox) hq hsub fun haccept => ?_
        subst haccept
        exact hunhurried r q rest hq (by rw [hinbox, hsub]; rfl)

end Inv

/-! ## Main results -/

/-- **The targets converge.** In every run in which no acknowledgement is overtaken, every endpoint of
which nothing is pending is a target exactly if its last entry was a Subscribe that was accepted. -/
theorem converged_of_unhurried (offering : { c : UInt16 // c ≠ routingClient }) (isMulticast : Bool)
    (actions : List (RemoteAction Address Ident))
    (hunhurried : Runs.Along (step offering) Unhurried (init isMulticast) actions) :
    (Runs.run (step offering) (init isMulticast) actions).Converged := by
  have hs := @Runs.inv_run_of_along _ _ (step offering) Inv Unhurried
    (fun hs hunhurried => hs.step hunhurried) _ _ (inv_init isMulticast) hunhurried
  exact fun e _ => hs.target e

/-- A remote endpoint. -/
def endpoint : EndpointDefinition ℕ := ⟨1, 1000, false⟩

/-- A Subscribe that is accepted before the StopSubscribe arrives. -/
theorem converged_of_unhurried_stop :
    endpoint ∉ (Runs.run (step ⟨1, by decide⟩) (init false) [
      .subscribe 0 endpoint endpoint ⟨3, by decide⟩ () 0, .answer 0 0 true,
      .stopSubscribe endpoint 0, .answer 0 0 true] : Convergence ℕ Unit).info.endpoints ∧
    (Runs.run (step ⟨1, by decide⟩) (init false) [
      .subscribe 0 endpoint endpoint ⟨3, by decide⟩ () 0, .answer 0 0 true,
      .stopSubscribe endpoint 0, .answer 0 0 true] : Convergence ℕ Unit).Converged := by
  refine ⟨by decide, converged_of_unhurried ⟨1, by decide⟩ false _
    ⟨fun _ => rfl, fun r q rest hq _ p _ p' hp' => ?_, rfl, fun r q rest _ hinbox => ?_, trivial⟩⟩
  · by_cases hr : r = endpoint.remote
    · subst hr
      obtain ⟨-, rfl⟩ := List.cons.inj (show [_] = q :: rest from hq)
      cases hp'
    · rw [EventgroupInfo.queue, show EventgroupInfo.pendingSubscriptionsByRemote _ r = none from
        Function.update_of_ne hr _ _] at hq
      cases hq
  · have hkind : some (2, false) = some (q.pendingSubscriptionId, true) := hinbox
    simp at hkind

/-- A StopSubscribe arrives before its Subscribe is acknowledged. -/
theorem not_converged_of_stop :
    ¬ (Runs.run (step ⟨1, by decide⟩) (init false) [
      .subscribe 0 endpoint endpoint ⟨3, by decide⟩ () 0, .stopSubscribe endpoint 0,
      .answer 0 0 true, .answer 0 0 true] : Convergence ℕ Unit).Converged := by
  intro h
  have hiff := h endpoint fun id p hp => ?_
  · exact absurd (hiff.mp (by decide)) (by decide)
  · have hnone : Function.update (Function.update (Function.update (Function.update
        (fun _ : UInt16 => none) 1 (some _)) 2 (some _)) 1 none) 2 none id = some p := hp
    by_cases h2 : id = 2
    · simp [h2] at hnone
    · by_cases h1 : id = 1
      · simp [h1] at hnone
      · simp [h1, h2] at hnone

end Convergence

end Vsomeip
