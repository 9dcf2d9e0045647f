import Mathlib.Data.List.Dedup
import Vsomeip.Routing.RemoteSubscription

set_option relaxedAutoImplicit false
set_option autoImplicit false

/-!
# How long an acknowledged subscription lasts

A target of an eventgroup has a time at which it expires. A renewal of a subscription changes that time
with `update_target`. `on_subscribe_ack` calls `add_target` for every subscription that it acknowledges,
and both variants leave an endpoint alone that is a target already. Of several subscriptions of one
endpoint that are released together only the first one counts, and none of them if the endpoint was a
target before.

## Main definitions

* `Vsomeip.EventgroupInfo.expireSubscriptions` — what `expire_subscriptions` does to an eventgroup.
* `Vsomeip.EventgroupInfo.LastsAcknowledged` — endpoints stay targets as long as was acknowledged.
* `Vsomeip.EventgroupInfo.LastNotLonger` — the condition under which they do.

## Main results

* `Vsomeip.EventgroupInfo.targetsOf_acknowledgeEach` — the targets behind `on_subscribe_ack`.
* `Vsomeip.EventgroupInfo.lastsAcknowledged_iff` — when an acknowledged subscription lasts.
-/

namespace Vsomeip

namespace EventgroupInfo

variable {Address Ident : Type} [DecidableEq Address]

/-! ## Expiration -/

/-- The endpoints of the targets that have expired. The source keeps them in a set; they come in any
order. -/
def expiredEndpoints (s : EventgroupInfo Address Ident) (now : ℕ) : List (EndpointDefinition Address) :=
  ((s.targets.filter (·.expiration < now)).map Target.endpoint).dedup

/-- The loop of `expire_subscriptions` that takes the expired targets out. -/
def expireTargets (s : EventgroupInfo Address Ident) (now : ℕ) : EventgroupInfo Address Ident :=
  let expired := s.expiredEndpoints now
  let s := expired.foldl removeTarget s
  if s.isMulticast && !expired.isEmpty && s.targets.all (·.endpoint.isReliable) then
    { s with multicastTargets := [] }
  else s

/-- The loop of `expire_subscriptions` that makes an unsubscription of each of them pending. -/
def unsubscribeExpired (offeringClient : UInt16) (clientOf : EndpointDefinition Address → UInt16) :
    List (EndpointDefinition Address) → EventgroupInfo Address Ident →
      EventgroupInfo Address Ident × List (RemoteOutput Address Ident)
  | [], s => (s, [])
  | e :: es, s =>
    if offeringClient = routingClient then unsubscribeExpired offeringClient clientOf es s
    else
      let (id, s) := s.addPendingSubscription (unsubscription e (clientOf e))
      let (s, out) := unsubscribeExpired offeringClient clientOf es s
      (s, (if id ≠ defaultSubscription then [.sendUnsubscription offeringClient (clientOf e) id] else []) ++
        out)

/-- `routing_manager_impl::expire_subscriptions` for an eventgroup; `clientOf` is `find_client`. -/
def expireSubscriptions (s : EventgroupInfo Address Ident) (offeringClient : UInt16)
    (clientOf : EndpointDefinition Address → UInt16) (now : ℕ) :
    EventgroupInfo Address Ident × List (RemoteOutput Address Ident) :=
  unsubscribeExpired offeringClient clientOf (s.expiredEndpoints now) (s.expireTargets now)

/-- The targets with an endpoint. -/
def targetsOf (s : EventgroupInfo Address Ident) (e : EndpointDefinition Address) :
    List (Target Address) :=
  s.targets.filter (·.endpoint = e)

/-- An endpoint is a target, and does not expire before a time. -/
structure LastsUntil (s : EventgroupInfo Address Ident) (e : EndpointDefinition Address) (time : ℕ) :
    Prop where
  isTarget : s.targetsOf e ≠ []
  notBefore : ∀ target ∈ s.targetsOf e, time ≤ target.expiration

section Expire

variable {s : EventgroupInfo Address Ident} {e : EndpointDefinition Address} {now time : ℕ}

/-- An endpoint has no target if it is none of a subscriber. -/
lemma targetsOf_eq_nil_iff : s.targetsOf e = [] ↔ e ∉ s.endpoints := by
  simp [targetsOf, endpoints, List.filter_eq_nil_iff]

/-- A subscription that lasts has not expired. -/
lemma LastsUntil.not_expired (h : s.LastsUntil e time) (hnow : now ≤ time) :
    e ∉ s.expiredEndpoints now := by
  rw [expiredEndpoints, List.mem_dedup, List.mem_map]
  rintro ⟨target, htarget, rfl⟩
  obtain ⟨hmem, hexpired⟩ := List.mem_filter.mp htarget
  have hnot := h.notBefore target (List.mem_filter.mpr ⟨hmem, by simp⟩)
  exact absurd (of_decide_eq_true hexpired) (by omega)

/-- A target stays when others are taken out. -/
lemma mem_endpoints_foldl_removeTarget {es : List (EndpointDefinition Address)} (he : e ∉ es) :
    e ∈ (es.foldl removeTarget s).endpoints ↔ e ∈ s.endpoints := by
  induction es generalizing s with
  | nil => rfl
  | cons e' es ih =>
    obtain ⟨hne, he⟩ := List.ne_and_not_mem_of_not_mem_cons he
    rw [List.foldl_cons, ih he, (s.removeTarget_eq e').2, List.mem_erase_of_ne hne]

/-- The calls for expired subscriptions keep the endpoints. -/
lemma endpoints_unsubscribeExpired (offeringClient : UInt16)
    (clientOf : EndpointDefinition Address → UInt16) (es : List (EndpointDefinition Address)) :
    (unsubscribeExpired offeringClient clientOf es s).1.endpoints = s.endpoints := by
  induction es generalizing s with
  | nil => rfl
  | cons e es ih =>
    rw [unsubscribeExpired]
    split_ifs
    · exact ih
    · have hadd : (s.addPendingSubscription (unsubscription e (clientOf e))).2.endpoints = s.endpoints := by
        rw [addPendingSubscription]
        split <;> rfl
      exact ih.trans hadd

/-- **An endpoint is not dropped while it lasts.** -/
lemma LastsUntil.mem_expireSubscriptions (h : s.LastsUntil e time) (hnow : now ≤ time)
    (offeringClient : UInt16) (clientOf : EndpointDefinition Address → UInt16) :
    e ∈ (s.expireSubscriptions offeringClient clientOf now).1.endpoints := by
  have hremoved : e ∈ ((s.expiredEndpoints now).foldl removeTarget s).endpoints := by
    rw [mem_endpoints_foldl_removeTarget (h.not_expired hnow)]
    exact not_not.mp (targetsOf_eq_nil_iff.not.mp h.isTarget)
  rw [expireSubscriptions, endpoints_unsubscribeExpired, expireTargets]
  split_ifs
  · exact hremoved
  · exact hremoved

end Expire

/-! ## Acknowledgements -/

/-- The subscriptions of an endpoint that were acknowledged, in their order. -/
def acknowledgedOf (e : EndpointDefinition Address) (out : List (RemoteOutput Address Ident)) :
    List (PendingSubscription Address Ident) :=
  out.filterMap fun
    | .acknowledge _ true p => if p.subscriber = e then some p else none
    | _ => none

/-- After `on_subscribe_ack` every endpoint of which a subscription was acknowledged is a target, does
not expire before the lifetime of the last one is over, and is not dropped before. -/
def LastsAcknowledged (s : EventgroupInfo Address Ident) (offeringClient : UInt16) (now : ℕ)
    (client id : UInt16) : Prop :=
  ∀ e last, (acknowledgedOf e (s.onSubscribeAck offeringClient now client id).2).getLast? = some last →
    (s.onSubscribeAck offeringClient now client id).1.LastsUntil e (now + last.ttl.toNat) ∧
    ∀ offeringClient' clientOf now', now' ≤ now + last.ttl.toNat →
      e ∈ ((s.onSubscribeAck offeringClient now client id).1.expireSubscriptions offeringClient' clientOf
        now').1.endpoints

/-- A released entry is a subscription of an endpoint that is acknowledged to service discovery. -/
def isSubscriptionOf (e : EndpointDefinition Address) (p : PendingSubscription Address Ident) : Bool :=
  p.isSubscribe && p.sdMessageIdentifier.isSome && p.subscriber = e

/-- The subscriptions of an endpoint among the entries that an answer with an id releases. -/
def releasedOf (s : EventgroupInfo Address Ident) (id : UInt16) (e : EndpointDefinition Address) :
    List (PendingSubscription Address Ident) :=
  (s.removePendingSubscription id).1.filter (isSubscriptionOf e)

/-- Of the subscriptions of an endpoint that are released the last one is not longer than the first one,
or, if the endpoint is a target already, than what is left of it. -/
def LastNotLonger (s : EventgroupInfo Address Ident) (now : ℕ) (id : UInt16) : Prop :=
  ∀ e first last, (s.releasedOf id e).head? = some first → (s.releasedOf id e).getLast? = some last →
    (e ∉ s.endpoints → last.ttl ≤ first.ttl) ∧
    ∀ target ∈ s.targetsOf e, now + last.ttl.toNat ≤ target.expiration

section Acknowledge

variable {s s' : EventgroupInfo Address Ident} {e : EndpointDefinition Address} {target : Target Address}
  {offeringClient client id : UInt16} {now : ℕ} {p : PendingSubscription Address Ident}
  {ps : List (PendingSubscription Address Ident)}

/-- What it means for the targets of an endpoint that a target is added if its endpoint is none. -/
lemma targetsOf_of_added (target : Target Address)
    (hold : target.endpoint ∈ s.endpoints → s'.targets = s.targets)
    (hnew : target.endpoint ∉ s.endpoints → s'.targets = s.targets ++ [target]) :
    s'.targetsOf e =
      if target.endpoint = e ∧ s.targetsOf e = [] then [target] else s.targetsOf e := by
  by_cases hmem : target.endpoint ∈ s.endpoints
  · rw [if_neg, targetsOf, hold hmem]
    · rfl
    · rintro ⟨rfl, hnone⟩
      exact targetsOf_eq_nil_iff.mp hnone hmem
  · rw [targetsOf, hnew hmem, List.filter_append]
    by_cases he : target.endpoint = e
    · subst he
      have hnone := targetsOf_eq_nil_iff.mpr hmem
      rw [if_pos ⟨rfl, hnone⟩]
      change s.targetsOf _ ++ _ = _
      simp [hnone]
    · simp [he, targetsOf]

/-- A multicast target is no target of a subscriber. -/
lemma targets_addMulticastTarget : (s.addMulticastTarget target).targets = s.targets := by
  rw [addMulticastTarget]
  split <;> rfl

/-- A subscriber becomes a target if it is none. -/
lemma targetsOf_addSubscriber : (s.addSubscriber now p).targetsOf e =
    if p.subscriber = e ∧ s.targetsOf e = [] then [⟨p.subscriber, now + p.ttl.toNat⟩]
    else s.targetsOf e := by
  have hany := s.any_endpoint_iff p.subscriber
  rw [addSubscriber]
  by_cases hmulticast : s.isMulticast && !p.subscriber.isReliable
  · rw [if_pos hmulticast]
    refine targetsOf_of_added ⟨p.subscriber, now + p.ttl.toNat⟩ (fun h => ?_) fun h => ?_
    · rw [addTargetMulticast, if_pos (hany.mpr h)]
    · rw [addTargetMulticast, if_neg (hany.not.mpr h), targets_addMulticastTarget]
  · rw [if_neg hmulticast]
    refine targetsOf_of_added ⟨p.subscriber, now + p.ttl.toNat⟩ (fun h => ?_) fun h => ?_
    · rw [addTarget, if_pos (hany.mpr h)]
    · rw [addTarget, if_neg (hany.not.mpr h)]

/-- The subscription that is acknowledged first makes its endpoint a target, if it is none. -/
lemma targetsOf_acknowledgeEach : (acknowledgeEach offeringClient client now ps s).1.targetsOf e =
    if s.targetsOf e = [] then
      ((ps.filter (isSubscriptionOf e)).head?.map fun p => ⟨e, now + p.ttl.toNat⟩).toList
    else s.targetsOf e := by
  induction ps generalizing s with
  | nil =>
    rw [acknowledgeEach]
    split_ifs with h
    · exact h
    · rfl
  | cons p ps ih =>
    rw [acknowledgeEach]
    by_cases hsub : p.isSubscribe
    · by_cases hident : p.sdMessageIdentifier.isSome
      · rw [if_pos hsub, if_pos hident]
        change (acknowledgeEach offeringClient client now ps (s.addSubscriber now p)).1.targetsOf e = _
        rw [ih, targetsOf_addSubscriber]
        by_cases he : p.subscriber = e
        · by_cases hnone : s.targetsOf e = []
          · simp [isSubscriptionOf, hsub, hident, he, hnone]
          · simp [hnone]
        · simp [isSubscriptionOf, he]
      · rw [if_pos hsub, if_neg hident, ih]
        simp [isSubscriptionOf, hident]
    · rw [if_neg hsub]
      change (acknowledgeEach offeringClient client now ps s).1.targetsOf e = _
      rw [ih]
      simp [isSubscriptionOf, hsub]

/-- The subscriptions that are acknowledged are those that are released. -/
lemma acknowledgedOf_acknowledgeEach :
    acknowledgedOf e (acknowledgeEach offeringClient client now ps s).2 =
      ps.filter (isSubscriptionOf e) := by
  induction ps generalizing s with
  | nil => rfl
  | cons p ps ih =>
    rw [acknowledgeEach]
    by_cases hsub : p.isSubscribe
    · by_cases hident : p.sdMessageIdentifier.isSome
      · rw [if_pos hsub, if_pos hident, List.filter_cons, ← ih (s := s.addSubscriber now p)]
        by_cases he : p.subscriber = e
        · simp [acknowledgedOf, isSubscriptionOf, hsub, hident, he]
        · simp [acknowledgedOf, isSubscriptionOf, he]
      · rw [if_pos hsub, if_neg hident, ih]
        simp [isSubscriptionOf, hident]
    · rw [if_neg hsub, List.filter_cons, ← ih (s := s)]
      simp [acknowledgedOf, isSubscriptionOf, hsub]

/-- A refusal acknowledges nothing. -/
lemma acknowledgedOf_onSubscribeNack :
    acknowledgedOf e (s.onSubscribeNack offeringClient client id).2 = [] := by
  rw [onSubscribeNack]
  split_ifs
  · rfl
  · rw [acknowledgedOf, List.filterMap_eq_nil_iff]
    intro o ho
    obtain ⟨p, -, hp⟩ := List.mem_filterMap.mp ho
    split_ifs at hp
    · rw [← Option.some.inj hp]
    · rw [← Option.some.inj hp]

/-- The answer to a released batch: the endpoint lasts as long as its last subscription exactly if that
one is not longer than what makes it a target. -/
lemma lastsUntil_acknowledgeEach_iff {first last : PendingSubscription Address Ident}
    (hfirst : (ps.filter (isSubscriptionOf e)).head? = some first) :
    (acknowledgeEach offeringClient client now ps s).1.LastsUntil e (now + last.ttl.toNat) ↔
      (e ∉ s.endpoints → last.ttl ≤ first.ttl) ∧
        ∀ target ∈ s.targetsOf e, now + last.ttl.toNat ≤ target.expiration := by
  have htargets : (acknowledgeEach offeringClient client now ps s).1.targetsOf e = _ :=
    targetsOf_acknowledgeEach
  rw [hfirst] at htargets
  by_cases hnone : s.targetsOf e = []
  · rw [if_pos hnone] at htargets
    rw [forall_prop_of_true (targetsOf_eq_nil_iff.mp hnone), hnone, and_iff_left (List.forall_mem_nil _)]
    constructor
    · intro h
      have hlast := h.notBefore ⟨e, now + first.ttl.toNat⟩ (by rw [htargets]; simp)
      exact UInt32.le_iff_toNat_le.mpr (Nat.le_of_add_le_add_left hlast)
    · intro hle
      refine ⟨by rw [htargets]; simp, fun target htarget => ?_⟩
      rw [htargets] at htarget
      obtain rfl := List.mem_singleton.mp htarget
      exact Nat.add_le_add_left (UInt32.le_iff_toNat_le.mp hle) now
  · rw [if_neg hnone] at htargets
    rw [and_iff_right fun hnot => absurd (targetsOf_eq_nil_iff.mpr hnot) hnone]
    exact ⟨fun h => htargets ▸ h.notBefore, fun h => ⟨htargets ▸ hnone, htargets ▸ h⟩⟩

end Acknowledge

/-- **An acknowledged subscription lasts** exactly if, of the subscriptions of an endpoint that are
released with it, the last one is not longer than the first one, or than what is left of a target that
the endpoint is already. -/
theorem lastsAcknowledged_iff (s : EventgroupInfo Address Ident) (offeringClient : UInt16) (now : ℕ)
    (client id : UInt16) : s.LastsAcknowledged offeringClient now client id ↔
      (id ≠ defaultSubscription → offeringClient ≠ routingClient → s.LastNotLonger now id) := by
  by_cases hid : id = defaultSubscription
  · refine iff_of_true (fun e last hlast => ?_) fun hne => absurd hid hne
    rw [onSubscribeAck, if_pos hid] at hlast
    cases hlast
  by_cases hoffering : offeringClient = routingClient
  · refine iff_of_true (fun e last hlast => ?_) fun _ hne => absurd hoffering hne
    rw [onSubscribeAck, if_neg hid, if_pos hoffering, acknowledgedOf_onSubscribeNack] at hlast
    cases hlast
  rw [forall_prop_of_true hid, forall_prop_of_true hoffering, LastsAcknowledged, onSubscribeAck,
    if_neg hid, if_neg hoffering, LastNotLonger]
  simp only [acknowledgedOf_acknowledgeEach]
  have htargets := (s.removePendingSubscription_frame id).1
  have hof (e : EndpointDefinition Address) :
      (s.removePendingSubscription id).2.targetsOf e = s.targetsOf e := by rw [targetsOf, htargets]; rfl
  have hendpoints : (s.removePendingSubscription id).2.endpoints = s.endpoints := by
    rw [endpoints, htargets]; rfl
  have hiff (e : EndpointDefinition Address) {first last : PendingSubscription Address Ident}
      (hfirst : (s.releasedOf id e).head? = some first) :
      (acknowledgeEach offeringClient client now (s.removePendingSubscription id).1
        (s.removePendingSubscription id).2).1.LastsUntil e (now + last.ttl.toNat) ↔ _ :=
    lastsUntil_acknowledgeEach_iff hfirst
  rw [hendpoints] at hiff
  simp only [hof] at hiff
  constructor
  · intro h e first last hfirst hlast
    exact (hiff e hfirst).mp (h e last hlast).1
  · intro h e last hlast
    obtain ⟨first, hfirst⟩ : ∃ first, (s.releasedOf id e).head? = some first := by
      cases hreleased : s.releasedOf id e with
      | nil =>
        change (s.releasedOf id e).getLast? = some last at hlast
        rw [hreleased] at hlast
        cases hlast
      | cons first rest => exact ⟨first, rfl⟩
    have hlasts := (hiff e hfirst).mpr (h e first last hfirst hlast)
    exact ⟨hlasts, fun offeringClient' clientOf now' hnow =>
      hlasts.mem_expireSubscriptions hnow offeringClient' clientOf⟩

/-- **A renewal that is lost**: two subscriptions of an endpoint, for 3 and for 10 seconds, are pending
when the first one is answered. Both are acknowledged, and the target expires after 3 seconds. -/
theorem not_lastsAcknowledged_renewed : ¬ ∀ (events : List (RemoteEvent ℕ ℕ)) (now : ℕ)
    (client id : UInt16), (events.foldl (fun s event => (s.handle 0x1234 0 event).1)
      (init false)).LastsAcknowledged 0x1234 now client id := by
  intro h
  have hlasts := h [.subscribe ⟨1, 30509, false⟩ ⟨1, 30509, false⟩ ⟨3, by decide⟩ 1 0x20,
    .subscribe ⟨1, 30509, false⟩ ⟨1, 30509, false⟩ ⟨10, by decide⟩ 2 0x20] 0 0x20 1
  have hlast := (hlasts ⟨1, 30509, false⟩ ⟨some 2, ⟨1, 30509, false⟩, ⟨1, 30509, false⟩, 10, 0x20, 2⟩
    (by decide)).1.notBefore ⟨⟨1, 30509, false⟩, 3⟩ (by decide)
  exact absurd hlast (by decide)

end EventgroupInfo

end Vsomeip
