import Mathlib.Data.List.Nodup
import Mathlib.Data.List.TakeWhile
import Mathlib.Logic.Function.Basic

set_option relaxedAutoImplicit false
set_option autoImplicit false

/-!
# Eventgroups of the routing manager

`eventgroupinfo` of `routing/src/eventgroupinfo.cpp`: the targets of an eventgroup, and the remote
subscriptions and unsubscriptions whose answer is pending. The pending ones are kept twice, in a map
from their id and in a list of ids for each remote address and port. Under an invariant the two are
one queue for each remote, and the operations are those of a queue: `add_pending_subscription` puts
an entry at its end and `remove_pending_subscription` takes the first entry with what it releases.

The maps are used only by key and are functions here. Endpoint definitions are shared: there is one
for each address, port and reliability, so that comparing the pointers compares these.

## Main definitions

* `Vsomeip.EventgroupInfo` — an eventgroup.
* `Vsomeip.EventgroupInfo.addPendingSubscription`,
  `Vsomeip.EventgroupInfo.removePendingSubscription` — the operations of the source.
* `Vsomeip.EventgroupInfo.Consistent` — the map and the lists fit.
* `Vsomeip.EventgroupInfo.queue` — the pending entries of a remote, in the order of its list.

## Main results

* `Vsomeip.EventgroupInfo.queue_addPendingSubscription`,
  `Vsomeip.EventgroupInfo.removePendingSubscription_of_queue` — the operations on the queues.
* `Vsomeip.EventgroupInfo.removePendingSubscription_of_not_head` — any other id changes nothing.
-/

namespace Vsomeip

/-- `DEFAULT_SUBSCRIPTION`, which is no id of a pending subscription. -/
def defaultSubscription : UInt16 := 0

/-- `endpoint_definition`. -/
structure EndpointDefinition (Address : Type) where
  address : Address
  port : UInt16
  isReliable : Bool
deriving DecidableEq

/-- The address and the port of an endpoint. -/
def EndpointDefinition.remote {Address : Type} (e : EndpointDefinition Address) :
    Address × UInt16 :=
  (e.address, e.port)

/-- `pending_subscription_t`: a subscription, or an unsubscription if its time to live is 0. -/
structure PendingSubscription (Address Ident : Type) where
  sdMessageIdentifier : Option Ident
  subscriber : EndpointDefinition Address
  target : EndpointDefinition Address
  ttl : UInt32
  subscribingClient : UInt16
  pendingSubscriptionId : UInt16 := defaultSubscription
deriving DecidableEq

namespace PendingSubscription

variable {Address Ident : Type}

/-- `ttl_ > 0`. -/
def isSubscribe (p : PendingSubscription Address Ident) : Bool := 0 < p.ttl

/-- The entry with its id. -/
def withId (p : PendingSubscription Address Ident) (id : UInt16) :
    PendingSubscription Address Ident :=
  { p with pendingSubscriptionId := id }

/-- An id does not change the kind of an entry. -/
@[simp] lemma isSubscribe_withId (p : PendingSubscription Address Ident) (id : UInt16) :
    (p.withId id).isSubscribe = p.isSubscribe := rfl

/-- An id does not change the subscriber of an entry. -/
@[simp] lemma subscriber_withId (p : PendingSubscription Address Ident) (id : UInt16) :
    (p.withId id).subscriber = p.subscriber := rfl

end PendingSubscription

/-- `eventgroupinfo::target_t`. -/
structure Target (Address : Type) where
  endpoint : EndpointDefinition Address
  expiration : ℕ
deriving DecidableEq

/-- `eventgroupinfo`, as far as remote subscriptions use it. -/
structure EventgroupInfo (Address Ident : Type) where
  isMulticast : Bool
  targets : List (Target Address)
  multicastTargets : List (Target Address)
  pendingSubscriptions : UInt16 → Option (PendingSubscription Address Ident)
  pendingSubscriptionsByRemote : Address × UInt16 → Option (List UInt16)
  subscriptionId : UInt16

namespace EventgroupInfo

variable {Address Ident : Type} [DecidableEq Address]

/-- A new eventgroup. -/
def init (isMulticast : Bool) : EventgroupInfo Address Ident where
  isMulticast := isMulticast
  targets := []
  multicastTargets := []
  pendingSubscriptions := fun _ => none
  pendingSubscriptionsByRemote := fun _ => none
  subscriptionId := defaultSubscription

/-! ## Targets -/

/-- `eventgroupinfo::add_multicast_target`. -/
def addMulticastTarget (s : EventgroupInfo Address Ident) (target : Target Address) :
    EventgroupInfo Address Ident :=
  if s.multicastTargets.any (·.endpoint = target.endpoint) then s
  else { s with multicastTargets := s.multicastTargets ++ [target] }

/-- `eventgroupinfo::add_target` with one argument. -/
def addTarget (s : EventgroupInfo Address Ident) (target : Target Address) :
    EventgroupInfo Address Ident :=
  if s.targets.any (·.endpoint = target.endpoint) then s
  else { s with targets := s.targets ++ [target] }

/-- `eventgroupinfo::add_target` with the multicast target and the subscriber. -/
def addTargetMulticast (s : EventgroupInfo Address Ident) (target subscriber : Target Address) :
    EventgroupInfo Address Ident :=
  if s.targets.any (·.endpoint = subscriber.endpoint) then s
  else ({ s with targets := s.targets ++ [subscriber] }).addMulticastTarget target

/-- `eventgroupinfo::update_target`. -/
def updateTarget (s : EventgroupInfo Address Ident) (e : EndpointDefinition Address)
    (expiration : ℕ) : Bool × EventgroupInfo Address Ident :=
  match s.targets.findIdx? (·.endpoint = e) with
  | some i => (true, { s with targets := s.targets.modify i fun t => { t with expiration } })
  | none => (false, s)

/-- `eventgroupinfo::remove_target`. -/
def removeTarget (s : EventgroupInfo Address Ident) (e : EndpointDefinition Address) :
    EventgroupInfo Address Ident :=
  { s with targets := s.targets.eraseP (·.endpoint = e) }

/-- The endpoints of the targets. -/
def endpoints (s : EventgroupInfo Address Ident) : List (EndpointDefinition Address) :=
  s.targets.map Target.endpoint

/-! ## Pending subscriptions -/

/-- The id that `add_pending_subscription` assigns next: the 16-bit counter, without
`DEFAULT_SUBSCRIPTION`. -/
def nextId (s : EventgroupInfo Address Ident) : UInt16 :=
  if s.subscriptionId + 1 = defaultSubscription then s.subscriptionId + 1 + 1
  else s.subscriptionId + 1

/-- `eventgroupinfo::add_pending_subscription`: the id, if there is nothing else pending of the
remote, or else `DEFAULT_SUBSCRIPTION`. -/
def addPendingSubscription (s : EventgroupInfo Address Ident)
    (p : PendingSubscription Address Ident) : UInt16 × EventgroupInfo Address Ident :=
  let id := s.nextId
  let pending := Function.update s.pendingSubscriptions id (some p)
  match s.pendingSubscriptionsByRemote p.subscriber.remote with
  | some ids =>
    (defaultSubscription,
      { s with
        subscriptionId := id
        pendingSubscriptions := pending
        pendingSubscriptionsByRemote :=
          Function.update s.pendingSubscriptionsByRemote p.subscriber.remote (some (ids ++ [id])) })
  | none =>
    (id,
      { s with
        subscriptionId := id
        pendingSubscriptions := pending
        pendingSubscriptionsByRemote :=
          Function.update s.pendingSubscriptionsByRemote p.subscriber.remote (some [id]) })

/-- The loop of `remove_pending_subscription` over the ids behind the removed one: what is left of
them and of the map, and what is released. -/
def releaseQueued (removedIsSubscribe : Bool) :
    List UInt16 → (UInt16 → Option (PendingSubscription Address Ident)) →
      List UInt16 × (UInt16 → Option (PendingSubscription Address Ident)) ×
        List (PendingSubscription Address Ident)
  | [], pending => ([], pending, [])
  | id :: ids, pending =>
    match pending id with
    | none =>
      let (left, pending, released) := releaseQueued removedIsSubscribe ids pending
      (id :: left, pending, released)
    | some other =>
      if removedIsSubscribe then
        if !other.isSubscribe then
          -- the unsubscription is sent first, and stays in the list until it is answered
          (id :: ids, pending, [other.withId id])
        else
          let (left, pending, released) :=
            releaseQueued removedIsSubscribe ids (Function.update pending id none)
          (left, pending, other.withId id :: released)
      else
        if other.isSubscribe then (id :: ids, pending, [other.withId id])
        else releaseQueued removedIsSubscribe ids (Function.update pending id none)

/-- `eventgroupinfo::remove_pending_subscription`. -/
def removePendingSubscription (s : EventgroupInfo Address Ident) (id : UInt16) :
    List (PendingSubscription Address Ident) × EventgroupInfo Address Ident :=
  match s.pendingSubscriptions id with
  | none => ([], s)
  | some removed =>
    match s.pendingSubscriptionsByRemote removed.subscriber.remote with
    | none => ([], s)
    | some [] => ([], s)
    | some (front :: ids) =>
      if front = id then
        let (left, pending, released) := releaseQueued removed.isSubscribe ids
          (Function.update s.pendingSubscriptions id none)
        ((if removed.isSubscribe then [removed.withId id] else []) ++ released,
          { s with
            pendingSubscriptions := pending
            pendingSubscriptionsByRemote :=
              Function.update s.pendingSubscriptionsByRemote removed.subscriber.remote
                (if left.isEmpty then none else some left) })
      else ([], s)

/-- `eventgroupinfo::clear_pending_subscriptions`. -/
def clearPendingSubscriptions (s : EventgroupInfo Address Ident) : EventgroupInfo Address Ident :=
  { s with
    pendingSubscriptions := fun _ => none
    pendingSubscriptionsByRemote := fun _ => none }

/-! ## The map and the lists as queues -/

/-- The entries of a list of ids, with their ids. -/
def entries (pending : UInt16 → Option (PendingSubscription Address Ident)) (ids : List UInt16) :
    List (PendingSubscription Address Ident) :=
  ids.filterMap fun id => (pending id).map (·.withId id)

/-- The pending entries of a remote. -/
def queue (s : EventgroupInfo Address Ident) (r : Address × UInt16) :
    List (PendingSubscription Address Ident) :=
  entries s.pendingSubscriptions ((s.pendingSubscriptionsByRemote r).getD [])

/-- The subscriptions that are taken out with the first entry of a queue, itself included. -/
def taken (q : PendingSubscription Address Ident) (rest : List (PendingSubscription Address Ident)) :
    List (PendingSubscription Address Ident) :=
  if q.isSubscribe then q :: rest.takeWhile (·.isSubscribe == q.isSubscribe) else []

/-- What is left of a queue without its first entry and the entries of the same kind behind it. -/
def left (q : PendingSubscription Address Ident) (rest : List (PendingSubscription Address Ident)) :
    List (PendingSubscription Address Ident) :=
  rest.dropWhile (·.isSubscribe == q.isSubscribe)

/-- What is released with the first entry of a queue: the subscriptions that are taken out, and the
first entry that is left, which is sent. -/
def released (q : PendingSubscription Address Ident)
    (rest : List (PendingSubscription Address Ident)) : List (PendingSubscription Address Ident) :=
  taken q rest ++ (left q rest).head?.toList

/-- The map and the lists of ids fit: the ids in the lists are those in the map, once in the list of
their own remote, there is no empty list, and `DEFAULT_SUBSCRIPTION` is not pending. -/
structure Consistent (s : EventgroupInfo Address Ident) : Prop where
  default : s.pendingSubscriptions defaultSubscription = none
  nonempty : ∀ r, s.pendingSubscriptionsByRemote r ≠ some []
  nodup : ∀ {r ids}, s.pendingSubscriptionsByRemote r = some ids → ids.Nodup
  own : ∀ {r ids}, s.pendingSubscriptionsByRemote r = some ids → ∀ id ∈ ids,
    ∃ p, s.pendingSubscriptions id = some p ∧ p.subscriber.remote = r
  listed : ∀ {id p}, s.pendingSubscriptions id = some p →
    ∃ ids, s.pendingSubscriptionsByRemote p.subscriber.remote = some ids ∧ id ∈ ids

section Entries

variable {pending : UInt16 → Option (PendingSubscription Address Ident)} {ids : List UInt16}
  {f : UInt16 → PendingSubscription Address Ident}

omit [DecidableEq Address] in
/-- The entries of ids that are all in the map. -/
lemma entries_eq_map (h : ∀ id ∈ ids, pending id = some (f id)) :
    entries pending ids = ids.map fun id => (f id).withId id := by
  rw [entries, ← List.filterMap_eq_map]
  refine List.filterMap_congr fun id hid => ?_
  rw [h id hid]
  rfl

omit [DecidableEq Address] in
/-- The entries depend only on the part of the map with their ids. -/
lemma entries_congr {pending' : UInt16 → Option (PendingSubscription Address Ident)}
    (h : ∀ id ∈ ids, pending' id = pending id) : entries pending' ids = entries pending ids :=
  List.filterMap_congr fun id hid => by rw [h id hid]

omit [DecidableEq Address] in
/-- **The loop behind the removed entry.** It takes the entries of the same kind out of the list and
of the map and stops at the first one of the other kind, which it releases; subscriptions that it
takes out are released too.

**Proof sketch.** Induction on the list. The entry of the first id is taken out of the map, which
does not change the entries of the other ids, since the list has no duplicates. -/
lemma releaseQueued_eq (b : Bool) (ids : List UInt16)
    (pending : UInt16 → Option (PendingSubscription Address Ident)) (hnodup : ids.Nodup)
    (h : ∀ id ∈ ids, pending id = some (f id)) :
    releaseQueued b ids pending =
      (ids.dropWhile fun id => (f id).isSubscribe == b,
        fun id => if id ∈ ids.takeWhile (fun id => (f id).isSubscribe == b) then none
          else pending id,
        (if b then (ids.takeWhile fun id => (f id).isSubscribe == b).map
            (fun id => (f id).withId id) else []) ++
          ((ids.dropWhile fun id => (f id).isSubscribe == b).map
            fun id => (f id).withId id).head?.toList) := by
  induction ids generalizing pending with
  | nil => cases b <;> rfl
  | cons id ids ih =>
    obtain ⟨hid, hnodup⟩ := List.nodup_cons.mp hnodup
    rw [releaseQueued, h id List.mem_cons_self]
    by_cases hb : (f id).isSubscribe = b
    · -- the entry is taken out
      have hrest := ih (Function.update pending id none) hnodup fun i hi => by
        rw [Function.update_of_ne (fun heq : i = id => hid (heq ▸ hi))]
        exact h i (List.mem_cons_of_mem id hi)
      have hmap : (fun i => if i ∈ ids.takeWhile (fun id => (f id).isSubscribe == b) then none
            else Function.update pending id none i) =
          fun i => if i ∈ id :: ids.takeWhile (fun id => (f id).isSubscribe == b) then none
            else pending i := by
        funext i
        by_cases hi : i = id
        · subst hi
          simp
        · simp [hi]
      rw [List.takeWhile_cons_of_pos (by simpa using hb),
        List.dropWhile_cons_of_pos (by simpa using hb), ← hmap]
      cases b
      · simp only [hb, Bool.false_eq_true, if_false, hrest]
      · simp only [hb, Bool.not_true, Bool.false_eq_true, if_false, if_true, hrest, List.map_cons,
          List.cons_append]
    · -- the loop stops
      rw [List.takeWhile_cons_of_neg (by simpa using hb),
        List.dropWhile_cons_of_neg (by simpa using hb)]
      cases b <;> simp at hb <;> simp [hb]

end Entries

section Queue

variable {s : EventgroupInfo Address Ident} {r : Address × UInt16}

omit [DecidableEq Address] in
/-- The list of a remote is that of the ids of its queue. -/
lemma Consistent.map_queue_id (h : s.Consistent) (r : Address × UInt16) :
    (s.queue r).map (·.pendingSubscriptionId) = (s.pendingSubscriptionsByRemote r).getD [] := by
  cases hr : s.pendingSubscriptionsByRemote r with
  | none => rw [queue, hr]; rfl
  | some ids =>
    rw [queue, hr, Option.getD_some, entries, List.map_filterMap]
    conv_rhs => rw [← List.filterMap_some (l := ids)]
    refine List.filterMap_congr fun id hid => ?_
    obtain ⟨p, hp, -⟩ := h.own hr id hid
    rw [hp]
    rfl

omit [DecidableEq Address] in
/-- What is in a queue: the entries of the map, in the queue of their remote. -/
lemma Consistent.mem_queue_iff (h : s.Consistent) {q : PendingSubscription Address Ident} :
    q ∈ s.queue r ↔ q.subscriber.remote = r ∧
      ∃ p, s.pendingSubscriptions q.pendingSubscriptionId = some p ∧
        p.withId q.pendingSubscriptionId = q := by
  rw [queue, entries, List.mem_filterMap]
  constructor
  · rintro ⟨id, hid, hq⟩
    obtain ⟨ids, hr⟩ : ∃ ids, s.pendingSubscriptionsByRemote r = some ids :=
      Option.ne_none_iff_exists'.mp fun hnone => by simp [hnone] at hid
    rw [hr, Option.getD_some] at hid
    obtain ⟨p, hp, hremote⟩ := h.own hr id hid
    rw [hp] at hq
    obtain rfl := Option.some.inj hq
    exact ⟨hremote, p, hp, rfl⟩
  · rintro ⟨rfl, p, hp, hq⟩
    have hremote : p.subscriber.remote = q.subscriber.remote := by rw [← hq]; rfl
    obtain ⟨ids, hr, hid⟩ := h.listed hp
    refine ⟨q.pendingSubscriptionId, ?_, ?_⟩
    · rw [← hremote, hr]
      exact hid
    · rw [hp, Option.map_some, hq]

omit [DecidableEq Address] in
/-- The entries of a queue are of its remote. -/
lemma Consistent.remote_of_mem (h : s.Consistent) {q : PendingSubscription Address Ident}
    (hq : q ∈ s.queue r) : q.subscriber.remote = r :=
  (h.mem_queue_iff.mp hq).1

omit [DecidableEq Address] in
/-- The ids in the queues are none but those of entries. -/
lemma Consistent.id_ne_of_mem (h : s.Consistent) {q : PendingSubscription Address Ident}
    (hq : q ∈ s.queue r) : q.pendingSubscriptionId ≠ defaultSubscription := by
  intro hid
  obtain ⟨-, p, hp, -⟩ := h.mem_queue_iff.mp hq
  rw [hid, h.default] at hp
  cases hp

omit [DecidableEq Address] in
/-- No two entries of a queue have the same id. -/
lemma Consistent.nodup_queue (h : s.Consistent) (r : Address × UInt16) :
    ((s.queue r).map (·.pendingSubscriptionId)).Nodup := by
  rw [h.map_queue_id]
  cases hr : s.pendingSubscriptionsByRemote r with
  | none => exact List.nodup_nil
  | some ids => exact h.nodup hr

omit [DecidableEq Address] in
/-- No two pending entries have the same id. -/
lemma Consistent.eq_of_id_eq (h : s.Consistent) {q q' : PendingSubscription Address Ident}
    {r' : Address × UInt16} (hq : q ∈ s.queue r) (hq' : q' ∈ s.queue r')
    (hid : q.pendingSubscriptionId = q'.pendingSubscriptionId) : q = q' := by
  obtain ⟨-, p, hp, hpq⟩ := h.mem_queue_iff.mp hq
  obtain ⟨-, p', hp', hpq'⟩ := h.mem_queue_iff.mp hq'
  rw [hid, hp'] at hp
  rw [← hpq, ← hpq', hid, Option.some.inj hp]

omit [DecidableEq Address] in
/-- Entries of different queues have different ids. -/
lemma Consistent.id_ne_of_remote_ne (h : s.Consistent) {q q' : PendingSubscription Address Ident}
    {r' : Address × UInt16} (hq : q ∈ s.queue r) (hq' : q' ∈ s.queue r') (hr : r' ≠ r) :
    q.pendingSubscriptionId ≠ q'.pendingSubscriptionId := by
  intro hid
  obtain rfl := h.eq_of_id_eq hq hq' hid
  exact hr ((h.remote_of_mem hq').symm.trans (h.remote_of_mem hq))

omit [DecidableEq Address] in
/-- A queue is empty exactly if its remote has no list. -/
lemma Consistent.queue_eq_nil_iff (h : s.Consistent) :
    s.queue r = [] ↔ s.pendingSubscriptionsByRemote r = none := by
  rw [← List.map_eq_nil_iff (f := (·.pendingSubscriptionId)), h.map_queue_id]
  cases hr : s.pendingSubscriptionsByRemote r with
  | none => simp
  | some ids => simpa using fun hids : ids = [] => h.nonempty r (hids ▸ hr)

omit [DecidableEq Address] in
/-- The start is consistent. -/
lemma consistent_init (isMulticast : Bool) :
    (init isMulticast : EventgroupInfo Address Ident).Consistent where
  default := rfl
  nonempty := fun r hr => by cases hr
  nodup := fun hr => by cases hr
  own := fun hr => by cases hr
  listed := fun hp => by cases hp

omit [DecidableEq Address] in
/-- At the start all queues are empty. -/
@[simp] lemma queue_init (isMulticast : Bool) (r : Address × UInt16) :
    (init isMulticast : EventgroupInfo Address Ident).queue r = [] := rfl

omit [DecidableEq Address] in
/-- Clearing is consistent. -/
lemma consistent_clearPendingSubscriptions (s : EventgroupInfo Address Ident) :
    s.clearPendingSubscriptions.Consistent where
  default := rfl
  nonempty := fun r hr => by cases hr
  nodup := fun hr => by cases hr
  own := fun hr => by cases hr
  listed := fun hp => by cases hp

omit [DecidableEq Address] in
/-- Clearing empties all queues. -/
@[simp] lemma queue_clearPendingSubscriptions (s : EventgroupInfo Address Ident)
    (r : Address × UInt16) : s.clearPendingSubscriptions.queue r = [] := rfl

/-! ### Changing one queue -/

section Update

variable {s' : EventgroupInfo Address Ident} {l : List UInt16}
  (hother : ∀ r' ≠ r, s'.pendingSubscriptionsByRemote r' = s.pendingSubscriptionsByRemote r')
  (hlist : s'.pendingSubscriptionsByRemote r = if l.isEmpty then none else some l)
  (hpending : ∀ id p, p.subscriber.remote ≠ r →
    (s'.pendingSubscriptions id = some p ↔ s.pendingSubscriptions id = some p))

include hother hlist hpending in
omit [DecidableEq Address] in
/-- A step that changes only the list of one remote and entries of this remote. -/
lemma Consistent.of_update (h : s.Consistent)
    (hdefault : s'.pendingSubscriptions defaultSubscription = none) (hnodup : l.Nodup)
    (hown : ∀ id ∈ l, ∃ p, s'.pendingSubscriptions id = some p ∧ p.subscriber.remote = r)
    (hlisted : ∀ id p, s'.pendingSubscriptions id = some p → p.subscriber.remote = r → id ∈ l) :
    s'.Consistent := by
  have hlist' {ids : List UInt16} (hids : s'.pendingSubscriptionsByRemote r = some ids) :
      ids ≠ [] ∧ ids = l := by
    rw [hlist] at hids
    cases l with
    | nil => cases hids
    | cons id l => exact Option.some.inj hids ▸ ⟨List.cons_ne_nil id l, rfl⟩
  refine ⟨hdefault, fun r' hr' => ?_, fun {r' ids} hr' => ?_, fun {r' ids} hr' id hid => ?_,
    fun {id p} hp => ?_⟩
  · by_cases hrr : r' = r
    · exact (hlist' (hrr ▸ hr')).1 rfl
    · exact h.nonempty r' (hother r' hrr ▸ hr')
  · by_cases hrr : r' = r
    · exact (hlist' (hrr ▸ hr')).2 ▸ hnodup
    · exact h.nodup (hother r' hrr ▸ hr')
  · by_cases hrr : r' = r
    · subst hrr
      exact hown id ((hlist' hr').2 ▸ hid)
    · obtain ⟨p, hp, hremote⟩ := h.own (hother r' hrr ▸ hr') id hid
      exact ⟨p, (hpending id p (hremote ▸ hrr)).mpr hp, hremote⟩
  · by_cases hrr : p.subscriber.remote = r
    · have hmem := hlisted id p hp hrr
      refine ⟨l, ?_, hmem⟩
      rw [hrr, hlist, if_neg (by simpa using List.ne_nil_of_mem hmem)]
    · obtain ⟨ids, hids, hid⟩ := h.listed ((hpending id p hrr).mp hp)
      exact ⟨ids, (hother _ hrr).trans hids, hid⟩

include hother hlist hpending in
/-- The queues after such a step. -/
lemma Consistent.queue_of_update (h : s.Consistent) :
    s'.queue = Function.update s.queue r (entries s'.pendingSubscriptions l) := by
  funext r'
  by_cases hrr : r' = r
  · subst hrr
    rw [Function.update_self, queue, hlist]
    cases l <;> rfl
  · rw [Function.update_of_ne hrr, queue, queue, hother r' hrr]
    refine entries_congr fun id hid => ?_
    obtain ⟨ids, hids⟩ : ∃ ids, s.pendingSubscriptionsByRemote r' = some ids :=
      Option.ne_none_iff_exists'.mp fun hnone => by simp [hnone] at hid
    rw [hids, Option.getD_some] at hid
    obtain ⟨p, hp, hremote⟩ := h.own hids id hid
    rw [hp]
    exact (hpending id p (hremote ▸ hrr)).mpr hp

end Update

/-! ### Adding an entry -/

variable (p : PendingSubscription Address Ident)

/-- The state after an entry was added, whether or not others are pending. -/
lemma addPendingSubscription_snd (s : EventgroupInfo Address Ident) :
    (s.addPendingSubscription p).2 =
      { s with
        subscriptionId := s.nextId
        pendingSubscriptions := Function.update s.pendingSubscriptions s.nextId (some p)
        pendingSubscriptionsByRemote :=
          Function.update s.pendingSubscriptionsByRemote p.subscriber.remote
            (some ((s.pendingSubscriptionsByRemote p.subscriber.remote).getD [] ++ [s.nextId])) } := by
  rw [addPendingSubscription]
  cases s.pendingSubscriptionsByRemote p.subscriber.remote <;> rfl

/-- An entry is to be sent if nothing else of its remote is pending. -/
lemma Consistent.addPendingSubscription_fst (h : s.Consistent) :
    (s.addPendingSubscription p).1 =
      if s.queue p.subscriber.remote = [] then s.nextId else defaultSubscription := by
  rw [addPendingSubscription]
  cases hr : s.pendingSubscriptionsByRemote p.subscriber.remote with
  | none => rw [if_pos (h.queue_eq_nil_iff.mpr hr)]
  | some ids =>
    rw [if_neg fun hnil => by rw [h.queue_eq_nil_iff.mp hnil] at hr; cases hr]

omit [DecidableEq Address] in
/-- The next id is not `DEFAULT_SUBSCRIPTION`. -/
lemma nextId_ne (s : EventgroupInfo Address Ident) : s.nextId ≠ defaultSubscription := by
  rw [nextId]
  split
  · rename_i h
    rw [h]
    decide
  · assumption

omit [DecidableEq Address] in
/-- An id that is not pending is in no list. -/
lemma Consistent.nextId_notMem (h : s.Consistent) (hfresh : s.pendingSubscriptions s.nextId = none) :
    s.nextId ∉ (s.pendingSubscriptionsByRemote r).getD [] := by
  intro hmem
  cases hr : s.pendingSubscriptionsByRemote r with
  | none => simp [hr] at hmem
  | some ids =>
    rw [hr, Option.getD_some] at hmem
    obtain ⟨p, hp, -⟩ := h.own hr _ hmem
    rw [hfresh] at hp
    cases hp

/-- **Adding an entry** under an id that is not pending puts it at the end of its queue.

**Proof sketch.** The lists of other remotes do not have the new id, so that the map gives the same
entries for them, and for the old part of the list of the remote. -/
lemma Consistent.addPendingSubscription (h : s.Consistent)
    (hfresh : s.pendingSubscriptions s.nextId = none) :
    (s.addPendingSubscription p).2.Consistent ∧
    (s.addPendingSubscription p).2.queue =
      Function.update s.queue p.subscriber.remote
        (s.queue p.subscriber.remote ++ [p.withId s.nextId]) := by
  set l := (s.pendingSubscriptionsByRemote p.subscriber.remote).getD [] with hl
  have hnotMem : s.nextId ∉ l := h.nextId_notMem hfresh
  have hold : ∀ id ∈ l, ∃ q, s.pendingSubscriptions id = some q ∧
      q.subscriber.remote = p.subscriber.remote := by
    intro id hid
    cases hr : s.pendingSubscriptionsByRemote p.subscriber.remote with
    | none => simp [hl, hr] at hid
    | some ids => exact h.own hr id (by simpa [hl, hr] using hid)
  have hother : ∀ r' ≠ p.subscriber.remote,
      (s.addPendingSubscription p).2.pendingSubscriptionsByRemote r' =
        s.pendingSubscriptionsByRemote r' := fun r' hr' => by
    rw [addPendingSubscription_snd]
    exact Function.update_of_ne hr' _ _
  have hlist : (s.addPendingSubscription p).2.pendingSubscriptionsByRemote p.subscriber.remote =
      if (l ++ [s.nextId]).isEmpty then none else some (l ++ [s.nextId]) := by
    rw [addPendingSubscription_snd, if_neg (by simp)]
    exact Function.update_self ..
  have hmap : (s.addPendingSubscription p).2.pendingSubscriptions =
      Function.update s.pendingSubscriptions s.nextId (some p) := by
    rw [addPendingSubscription_snd]
  have hpending : ∀ id q, q.subscriber.remote ≠ p.subscriber.remote →
      ((s.addPendingSubscription p).2.pendingSubscriptions id = some q ↔
        s.pendingSubscriptions id = some q) := by
    intro id q hq
    rw [hmap]
    by_cases hid : id = s.nextId
    · subst hid
      rw [Function.update_self, hfresh]
      exact iff_of_false (fun heq => hq (Option.some.inj heq ▸ rfl)) fun heq => by cases heq
    · rw [Function.update_of_ne hid]
  refine ⟨h.of_update hother hlist hpending ?_ ?_ ?_ ?_, ?_⟩
  · rw [hmap, Function.update_of_ne s.nextId_ne.symm]
    exact h.default
  · rw [hl, ← h.map_queue_id] at hnotMem ⊢
    exact (h.nodup_queue _).append (List.nodup_singleton _) (List.disjoint_singleton.mpr hnotMem)
  · intro id hid
    rw [hmap]
    rcases List.mem_append.mp hid with hid | hid
    · rw [Function.update_of_ne fun heq : id = s.nextId => hnotMem (heq ▸ hid)]
      exact hold id hid
    · rw [List.mem_singleton.mp hid]
      exact ⟨p, Function.update_self .., rfl⟩
  · intro id q hq hremote
    rw [hmap] at hq
    by_cases hid : id = s.nextId
    · simp [hid]
    · rw [Function.update_of_ne hid] at hq
      obtain ⟨ids, hids, hmem⟩ := h.listed hq
      rw [hremote] at hids
      simp [hl, hids, hmem]
  · rw [h.queue_of_update hother hlist hpending, hmap]
    congr 1
    have hframe : entries (Function.update s.pendingSubscriptions s.nextId (some p)) l =
        entries s.pendingSubscriptions l :=
      entries_congr fun id hid =>
        Function.update_of_ne (fun heq : id = s.nextId => hnotMem (heq ▸ hid)) _ _
    rw [entries, List.filterMap_append]
    refine congrArg₂ (· ++ ·) hframe ?_
    simp

/-! ### Removing an entry -/

/-- A list of ids whose first one stands for `q` and the others for `rest`: the entry of each id is
`f` of it. -/
structure Front (s : EventgroupInfo Address Ident) (r : Address × UInt16)
    (q : PendingSubscription Address Ident) (rest : List (PendingSubscription Address Ident))
    (ids : List UInt16) (f : UInt16 → PendingSubscription Address Ident) : Prop where
  list : s.pendingSubscriptionsByRemote r = some (q.pendingSubscriptionId :: ids)
  own : ∀ id ∈ q.pendingSubscriptionId :: ids,
    s.pendingSubscriptions id = some (f id) ∧ (f id).subscriber.remote = r
  first : (f q.pendingSubscriptionId).withId q.pendingSubscriptionId = q
  rest : rest = ids.map fun id => (f id).withId id

section Front

variable {q : PendingSubscription Address Ident} {rest : List (PendingSubscription Address Ident)}
  {ids : List UInt16} {f : UInt16 → PendingSubscription Address Ident}

/-- The ids of the entries that leave the list with the first one. -/
def outIds (q : PendingSubscription Address Ident) (f : UInt16 → PendingSubscription Address Ident)
    (ids : List UInt16) : List UInt16 :=
  ids.takeWhile fun id => (f id).isSubscribe == q.isSubscribe

/-- The ids of the entries that stay in the list. -/
def leftIds (q : PendingSubscription Address Ident) (f : UInt16 → PendingSubscription Address Ident)
    (ids : List UInt16) : List UInt16 :=
  ids.dropWhile fun id => (f id).isSubscribe == q.isSubscribe

omit [DecidableEq Address] in
/-- The ids that leave a queue and those that are left. -/
lemma outIds_append_leftIds : outIds q f ids ++ leftIds q f ids = ids :=
  List.takeWhile_append_dropWhile

omit [DecidableEq Address] in
/-- The ids of a queue. -/
lemma Consistent.exists_front (h : s.Consistent) (hq : s.queue r = q :: rest) :
    ∃ ids f, Front s r q rest ids f := by
  have hmem : q ∈ s.queue r := by rw [hq]; exact List.mem_cons_self
  obtain ⟨-, p, hp, hpq⟩ := h.mem_queue_iff.mp hmem
  obtain ⟨ids, hr⟩ : ∃ ids, s.pendingSubscriptionsByRemote r =
      some (q.pendingSubscriptionId :: ids) := by
    have hmap := h.map_queue_id r
    cases hr : s.pendingSubscriptionsByRemote r with
    | none => rw [hq, hr] at hmap; cases hmap
    | some ids =>
      rw [hq, hr, List.map_cons, Option.getD_some] at hmap
      exact ⟨_, by rw [← hmap]⟩
  have hown : ∀ id ∈ q.pendingSubscriptionId :: ids,
      s.pendingSubscriptions id = some ((s.pendingSubscriptions id).getD p) ∧
        ((s.pendingSubscriptions id).getD p).subscriber.remote = r := by
    intro id hid
    obtain ⟨p', hp', hremote⟩ := h.own hr id hid
    rw [hp', Option.getD_some]
    exact ⟨rfl, hremote⟩
  refine ⟨ids, fun id => (s.pendingSubscriptions id).getD p, hr, hown, ?_, ?_⟩
  · rw [hp, Option.getD_some, hpq]
  · have hmap : s.queue r = (q.pendingSubscriptionId :: ids).map
        fun id => ((s.pendingSubscriptions id).getD p).withId id := by
      rw [queue, hr]
      exact entries_eq_map fun id hid => (hown id hid).1
    rw [hq, List.map_cons] at hmap
    exact (List.cons.inj hmap).2

/-- What is released with the first entry, and what is left in the map and the lists. -/
lemma Front.removePendingSubscription_eq (hf : Front s r q rest ids f)
    (hnodup : (q.pendingSubscriptionId :: ids).Nodup) :
    s.removePendingSubscription q.pendingSubscriptionId =
      ((if q.isSubscribe then [q] else []) ++
          ((if q.isSubscribe then (outIds q f ids).map (fun id => (f id).withId id) else []) ++
            ((leftIds q f ids).map fun id => (f id).withId id).head?.toList),
        { s with
          pendingSubscriptions := fun id =>
            if id ∈ outIds q f ids then none
            else Function.update s.pendingSubscriptions q.pendingSubscriptionId none id
          pendingSubscriptionsByRemote := Function.update s.pendingSubscriptionsByRemote r
            (if (leftIds q f ids).isEmpty then none else some (leftIds q f ids)) }) := by
  obtain ⟨hnotMem, hnodup⟩ := List.nodup_cons.mp hnodup
  obtain ⟨hp, hpr⟩ := hf.own _ List.mem_cons_self
  have hkind : (f q.pendingSubscriptionId).isSubscribe = q.isSubscribe := by
    conv_rhs => rw [← hf.first]
    rfl
  have hloop := releaseQueued_eq q.isSubscribe ids
    (Function.update s.pendingSubscriptions q.pendingSubscriptionId none) hnodup (f := f)
    fun id hid => by
      rw [Function.update_of_ne fun heq : id = q.pendingSubscriptionId => hnotMem (heq ▸ hid)]
      exact (hf.own id (List.mem_cons_of_mem _ hid)).1
  simp only [removePendingSubscription, hp, hpr, hf.list, if_true, hkind, hloop, hf.first]
  rfl

end Front

/-- **Removing the first entry** of a queue releases it with the entries of its kind behind it, and
the next entry of the other kind is then the first one. -/
lemma Consistent.removePendingSubscription_of_queue (h : s.Consistent)
    {q : PendingSubscription Address Ident} {rest : List (PendingSubscription Address Ident)}
    (hq : s.queue r = q :: rest) :
    (s.removePendingSubscription q.pendingSubscriptionId).1 = released q rest ∧
    (s.removePendingSubscription q.pendingSubscriptionId).2.Consistent ∧
    (s.removePendingSubscription q.pendingSubscriptionId).2.queue =
      Function.update s.queue r (left q rest) := by
  obtain ⟨ids, f, hf⟩ := h.exists_front hq
  have hresult := hf.removePendingSubscription_eq (h.nodup hf.list)
  obtain ⟨hnotMem, hnodup⟩ := List.nodup_cons.mp (h.nodup hf.list)
  have hsplit : outIds q f ids ++ leftIds q f ids = ids := outIds_append_leftIds
  obtain ⟨-, hleftNodup, hdisjoint⟩ := List.nodup_append'.mp (hsplit ▸ hnodup)
  have hleft {id : UInt16} (hid : id ∈ leftIds q f ids) : id ∈ ids :=
    hsplit ▸ List.mem_append_right _ hid
  have hmap (id : UInt16) : (s.removePendingSubscription q.pendingSubscriptionId).2.pendingSubscriptions
      id = if id = q.pendingSubscriptionId ∨ id ∈ outIds q f ids then none
        else s.pendingSubscriptions id := by
    rw [hresult]
    by_cases hid : id = q.pendingSubscriptionId
    · subst hid
      simp
    · simp [hid]
  have hother : ∀ r' ≠ r,
      (s.removePendingSubscription q.pendingSubscriptionId).2.pendingSubscriptionsByRemote r' =
        s.pendingSubscriptionsByRemote r' := fun r' hr' => by
    rw [hresult]
    exact Function.update_of_ne hr' _ _
  have hlist :
      (s.removePendingSubscription q.pendingSubscriptionId).2.pendingSubscriptionsByRemote r =
        if (leftIds q f ids).isEmpty then none else some (leftIds q f ids) := by
    rw [hresult]
    exact Function.update_self ..
  have hpending : ∀ id p', p'.subscriber.remote ≠ r →
      ((s.removePendingSubscription q.pendingSubscriptionId).2.pendingSubscriptions id = some p' ↔
        s.pendingSubscriptions id = some p') := by
    intro id p' hp'
    rw [hmap]
    split
    · rename_i hid
      obtain ⟨hid, hremote'⟩ := hf.own id (by
        rcases hid with hid | hid
        · exact hid ▸ List.mem_cons_self
        · exact List.mem_cons_of_mem _ (hsplit ▸ List.mem_append_left _ hid))
      refine iff_of_false (fun heq => by cases heq) fun heq => hp' ?_
      rw [hid] at heq
      exact Option.some.inj heq ▸ hremote'
    · rfl
  have hkept : ∀ id ∈ leftIds q f ids,
      (s.removePendingSubscription q.pendingSubscriptionId).2.pendingSubscriptions id =
        some (f id) := by
    intro id hid
    rw [hmap, if_neg, (hf.own id (List.mem_cons_of_mem _ (hleft hid))).1]
    rintro (rfl | htk)
    · exact hnotMem (hleft hid)
    · exact hdisjoint htk hid
  refine ⟨?_, h.of_update hother hlist hpending ?_ hleftNodup ?_ ?_, ?_⟩
  · rw [hresult, released, taken, left, hf.rest, List.dropWhile_map, List.takeWhile_map]
    cases hb : q.isSubscribe
    · simp [leftIds, hb, Function.comp_def]
    · simp [leftIds, outIds, hb, Function.comp_def]
  · rw [hmap, h.default, ite_self]
  · exact fun id hid =>
      ⟨f id, hkept id hid, (hf.own id (List.mem_cons_of_mem _ (hleft hid))).2⟩
  · intro id p' hp' hremote'
    rw [hmap] at hp'
    split at hp'
    · cases hp'
    · rename_i hid
      obtain ⟨l, hl, hid'⟩ := h.listed hp'
      rw [hremote', hf.list] at hl
      obtain rfl := Option.some.inj hl
      have hids := (List.mem_cons.mp hid').resolve_left fun heq => hid (.inl heq)
      rw [← hsplit] at hids
      exact (List.mem_append.mp hids).resolve_left fun htk => hid (.inr htk)
  · rw [h.queue_of_update hother hlist hpending, entries_eq_map hkept, left, hf.rest,
      List.dropWhile_map]
    rfl

/-- **Removing any other id** changes nothing. -/
lemma Consistent.removePendingSubscription_of_not_head (h : s.Consistent) {id : UInt16}
    (hid : ∀ r q rest, s.queue r = q :: rest → q.pendingSubscriptionId ≠ id) :
    s.removePendingSubscription id = ([], s) := by
  rw [removePendingSubscription]
  cases hp : s.pendingSubscriptions id with
  | none => rfl
  | some p =>
    obtain ⟨ids, hids, hmem⟩ := h.listed hp
    simp only [hids]
    cases ids with
    | nil => rfl
    | cons front ids =>
      have hfront : front ≠ id := by
        have hmap := h.map_queue_id p.subscriber.remote
        rw [hids, Option.getD_some] at hmap
        cases hq : s.queue p.subscriber.remote with
        | nil => rw [hq] at hmap; cases hmap
        | cons q rest =>
          rw [hq, List.map_cons] at hmap
          exact (List.cons.inj hmap).1 ▸ hid _ q rest hq
      exact if_neg hfront

/-- Removing an entry changes neither the targets nor the counter. -/
lemma removePendingSubscription_frame (s : EventgroupInfo Address Ident) (id : UInt16) :
    (s.removePendingSubscription id).2.targets = s.targets ∧
      (s.removePendingSubscription id).2.subscriptionId = s.subscriptionId := by
  rw [removePendingSubscription]
  split
  · exact ⟨rfl, rfl⟩
  · split
    · exact ⟨rfl, rfl⟩
    · exact ⟨rfl, rfl⟩
    · split <;> exact ⟨rfl, rfl⟩

/-! ### What is released -/

section Released

variable {q p : PendingSubscription Address Ident} {rest : List (PendingSubscription Address Ident)}

omit [DecidableEq Address] in
/-- The entries that are taken are Subscribes, at the head of the queue. -/
lemma mem_taken (h : p ∈ taken q rest) :
    p ∈ q :: rest.takeWhile (·.isSubscribe == q.isSubscribe) ∧ p.isSubscribe = true := by
  rw [taken] at h
  split at h
  · rename_i hq
    refine ⟨h, ?_⟩
    rcases List.mem_cons.mp h with rfl | h
    · exact hq
    · simpa [hq] using List.mem_takeWhile_imp h
  · cases h

omit [DecidableEq Address] in
/-- The entries that are taken are in the order of the queue. -/
lemma taken_sublist : (taken q rest).Sublist (q :: rest) := by
  rw [taken]
  split
  · exact (List.takeWhile_sublist _).cons_cons q
  · exact List.nil_sublist _

omit [DecidableEq Address] in
/-- What is left is an end of the queue. -/
lemma left_suffix : left q rest <:+ rest :=
  List.dropWhile_suffix _

omit [DecidableEq Address] in
/-- A queue is what is of the kind of its first entry, and what is left. -/
lemma cons_eq_append_left (q : PendingSubscription Address Ident)
    (rest : List (PendingSubscription Address Ident)) :
    q :: rest = (q :: rest.takeWhile (·.isSubscribe == q.isSubscribe)) ++ left q rest := by
  rw [left, List.cons_append, List.takeWhile_append_dropWhile]

omit [DecidableEq Address] in
/-- Behind a subscription an entry is taken or left. -/
lemma mem_taken_or_left (hq : q.isSubscribe = true) (h : p ∈ q :: rest) :
    p ∈ taken q rest ∨ p ∈ left q rest := by
  rw [cons_eq_append_left q rest, List.mem_append] at h
  rwa [taken, if_pos hq]

omit [DecidableEq Address] in
/-- Behind an unsubscription an entry is an unsubscription or left. -/
lemma not_isSubscribe_or_mem_left (hq : q.isSubscribe = false) (h : p ∈ q :: rest) :
    p.isSubscribe = false ∨ p ∈ left q rest := by
  rw [cons_eq_append_left q rest, List.mem_append] at h
  refine h.imp_left fun h => ?_
  rcases List.mem_cons.mp h with rfl | h
  · exact hq
  · simpa [hq] using List.mem_takeWhile_imp h

omit [DecidableEq Address] in
/-- What is taken is not left. -/
lemma Consistent.notMem_left (hs : s.Consistent) (hq : s.queue r = q :: rest)
    (hp : p ∈ taken q rest) : p ∉ left q rest := by
  intro hleft
  have hnodup : (q :: rest).Nodup := hq ▸ (hs.nodup_queue r).of_map
  rw [cons_eq_append_left q rest] at hnodup
  exact (List.disjoint_of_nodup_append hnodup) (mem_taken hp).1 hleft

omit [DecidableEq Address] in
/-- The first entry that is left is of the other kind. -/
lemma head_left (h : (left q rest).head? = some p) : p.isSubscribe = !q.isSubscribe := by
  have hhead := List.head?_dropWhile_not (fun p : PendingSubscription Address Ident =>
    p.isSubscribe == q.isSubscribe) rest
  rw [left] at h
  rw [h] at hhead
  cases hp : p.isSubscribe <;> cases hq : q.isSubscribe <;> simp_all

omit [DecidableEq Address] in
/-- What is released was in the queue. -/
lemma mem_of_mem_released (h : p ∈ released q rest) : p ∈ q :: rest := by
  rcases List.mem_append.mp h with h | h
  · exact taken_sublist.subset h
  · rw [Option.mem_toList] at h
    exact List.mem_cons_of_mem q (left_suffix.subset (List.mem_of_mem_head? h))

end Released

/-! ### Queues after a step -/

section Append

variable {info : EventgroupInfo Address Ident} {p q : PendingSubscription Address Ident}
  {rest : List (PendingSubscription Address Ident)} {id : UInt16}
  (hqueue : info.queue = Function.update s.queue p.subscriber.remote
    (s.queue p.subscriber.remote ++ [p.withId id]))

include hqueue

/-- The entries after one was put at the end of its queue. -/
lemma mem_queue_of_append :
    q ∈ info.queue r ↔ q ∈ s.queue r ∨ r = p.subscriber.remote ∧ q = p.withId id := by
  rw [hqueue]
  by_cases hr : r = p.subscriber.remote
  · subst hr
    rw [Function.update_self, List.mem_append, List.mem_singleton, and_iff_right rfl]
  · rw [Function.update_of_ne hr, or_iff_left fun hand => hr hand.1]

/-- The first entry of a queue stays the first one. -/
lemma queue_cons_of_append (hq : s.queue r = q :: rest) :
    ∃ rest', info.queue r = q :: rest' ∧ ∀ p' ∈ rest', p' ∈ rest ∨ p' = p.withId id := by
  rw [hqueue]
  by_cases hr : r = p.subscriber.remote
  · subst hr
    refine ⟨rest ++ [p.withId id], by rw [Function.update_self, hq, List.cons_append], ?_⟩
    exact fun p' hp' => (List.mem_append.mp hp').imp_right List.mem_singleton.mp
  · exact ⟨rest, by rw [Function.update_of_ne hr, hq], fun p' hp' => .inl hp'⟩

/-- A queue that was empty has no entry but the new one. -/
lemma queue_eq_singleton_of_append (hnil : s.queue r = []) (hne : info.queue r ≠ []) :
    r = p.subscriber.remote ∧ info.queue r = [p.withId id] := by
  rw [hqueue] at hne ⊢
  by_cases hr : r = p.subscriber.remote
  · subst hr
    exact ⟨rfl, by rw [Function.update_self, hnil, List.nil_append]⟩
  · rw [Function.update_of_ne hr] at hne
    exact absurd hnil hne

end Append

/-- What is in the queues after the first entry of one was answered, is in them before. -/
lemma queue_suffix_of_left {info : EventgroupInfo Address Ident}
    {q : PendingSubscription Address Ident} {rest : List (PendingSubscription Address Ident)}
    (hqueue : info.queue = Function.update s.queue r (left q rest)) (hq : s.queue r = q :: rest)
    (r' : Address × UInt16) : info.queue r' <:+ s.queue r' := by
  rw [hqueue]
  by_cases hr : r' = r
  · subst hr
    rw [Function.update_self, hq]
    exact left_suffix.trans (List.suffix_cons q rest)
  · simp only [Function.update_of_ne hr, List.suffix_rfl]

end Queue

end EventgroupInfo

end Vsomeip
