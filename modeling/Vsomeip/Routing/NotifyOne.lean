import Mathlib.Data.Finset.Sort
import Mathlib.Data.List.Infix
import Vsomeip.Routing.InsertSubscription
import Vsomeip.Routing.RemoteSubscription

set_option relaxedAutoImplicit false
set_option autoImplicit false

/-!
# Notifications for one client

`notify_one` sets the payload of an event of the host's own service and sends it to one client. The
client may not have subscribed yet: then the notification is parked in `pending_notify_ones_`, and
`send_pending_notify_ones` sends it when the client subscribes. A notification that is addressed to
a client should be sent to it exactly once, in the order of the calls, as soon as it is subscribed.

The table has room for one notification for each eventgroup and does not keep the client. A parked
notification is lost when another one is parked on its eventgroup, and it is sent to whoever
subscribes first. Also, only the first eventgroup of an event is looked at, both for the
subscription and for the parking. And the payload for one client becomes the value of the event: if
this is a field, the next subscriber gets it as the current value, and if it has a cycle, all
subscribers get it when the timer expires. In runs in which none of this matters, the notifications
arrive as they should.

The clients are those with a local endpoint. What was addressed to a client and what was sent to it
are kept as logs, and a parked notification is kept with the client for which it was parked, which
the code does not read. Nothing but `notify_one` sets a payload.

## Main definitions

* `Vsomeip.NotifyOne.notifyOne`, `Vsomeip.NotifyOne.notifyOneCurrentValue`,
  `Vsomeip.NotifyOne.sendPendingNotifyOnes` — the functions of the source.
* `Vsomeip.NotifyOne.step` — notifications, subscriptions, and the timers of the events.
* `Vsomeip.NotifyOne.Exact` — what was sent to a client is what was addressed to it.
* `Vsomeip.NotifyOne.Undisturbed` — the condition on a step.

## Main results

* `Vsomeip.NotifyOne.exact_along` — in runs of such steps the notifications arrive as they should.
-/

namespace Vsomeip

open Std (TreeMap)

/-- `ANY_CLIENT`. -/
def anyClient : UInt16 := 0xFFFF

namespace Event

/-- `event::has_subscriber`. -/
def hasSubscriber (ev : Event) (eventgroup client : UInt16) : Bool :=
  if client = anyClient then (ev.getSubscribers eventgroup).card > 0
  else client ∈ ev.getSubscribers eventgroup

/-- `event::set_payload` for one client, and whether the event is sent. -/
def setPayload (ev : Event) (payload : List UInt8) (force : Bool) : Event × Bool :=
  if ev.isProvided then
    if ¬ ev.isField ∨ force ∨ ev.epsilonChange ev.payload payload then
      ({ ev with payload := payload, isSet := true }, true)
    else (ev, false)
  else (ev, false)

/-- `event::is_subscribed`. -/
def isSubscribed (ev : Event) (client : UInt16) : Bool :=
  ev.eventgroups.toList.any fun group => client ∈ group.2

end Event

/-- A notification for one client. -/
structure Notification where
  client : UInt16
  service : ServiceKey
  event : UInt16
  payload : List UInt8
deriving DecidableEq

namespace Event

/-- What `event::notify_one` sends to a client. -/
def notifyOne (ev : Event) (client : UInt16) : List Notification :=
  if ev.isSet then [⟨client, ev.service, ev.event, ev.payload⟩] else []

/-- What `event::notify` sends to the local subscribers. -/
def notify (ev : Event) : List Notification :=
  (ev.allSubscribers.filter fun c => c ≠ routingClient).flatMap ev.notifyOne

end Event

/-- What the events are registered with and what the configuration says of them. -/
structure NotifyConfig where
  debounce : List UInt8 → List UInt8 → Bool
  /-- Whether an event is registered with a cycle. -/
  isCyclic : ServiceKey → UInt16 → Bool

/-- The events, `pending_notify_ones_`, and the logs. -/
structure NotifyOne where
  registry : EventRegistry
  pending : ServiceKey → UInt16 → Option Notification
  sent : List Notification
  notified : List Notification

/-- What happens: a notification of the host for a client, a subscription of a client that the host has
accepted, and the timer of an event expires. -/
inductive NotifyAction
  | notifyOne (n : Notification) (force : Bool)
  | subscribe (service : ServiceKey) (eventgroup event client : UInt16)
  | updateCbk (service : ServiceKey) (event : UInt16)

namespace EventRegistry

/-- The first eventgroup of an event that exists. -/
def validGroup (s : EventRegistry) (service : ServiceKey) (ev : Event) : Option UInt16 :=
  ev.eventgroups.keys.find? fun g => (s.eventgroups service g).isSome

/-- `event::is_subscribed` of a registered event: the client is a subscriber through any
eventgroup. -/
def IsSubscribedEvent (s : EventRegistry) (service : ServiceKey) (event client : UInt16) : Prop :=
  ∃ p g, s.events service event = some p ∧ client ∈ (s.objects p).getSubscribers g

/-- The event and the valid eventgroup of a notification. -/
def route (s : EventRegistry) (n : Notification) : Option (ℕ × UInt16) :=
  (s.events n.service n.event).bind fun p =>
    (s.validGroup n.service (s.objects p)).map fun g => (p, g)

section CurrentValue

variable (s : EventRegistry) (service : ServiceKey) (eventgroup event client : UInt16)

/-- The set `_already_subscribed_events` that `insert_subscription` fills. -/
def alreadySubscribedEvents : Finset UInt16 :=
  if event ≠ anyEvent then ∅
  else ((s.findEvents service eventgroup).filter fun p => (s.objects p).isSubscribed client).image
    fun p => (s.objects p).event

/-- What `notify_one_current_value` sends. -/
def notifyOneCurrentValue (eventsToExclude : Finset UInt16) : List Notification :=
  if event ≠ anyEvent then
    match s.findEvent service event with
    | some ev => if ev.isField then ev.notifyOne client else []
    | none => []
  else
    ((s.findEvents service eventgroup).sort (· ≤ ·)).flatMap fun p =>
      if (s.objects p).isField ∧ (s.objects p).event ∉ eventsToExclude then
        (s.objects p).notifyOne client
      else []

/-- A field with a value is concerned by a subscription: it is the event, or belongs to the eventgroup
and is not excluded. -/
def HasCurrentValue (eventsToExclude : Finset UInt16) (p : ℕ) : Prop :=
  (if event ≠ anyEvent then s.events service event = some p
    else p ∈ s.findEvents service eventgroup ∧ (s.objects p).event ∉ eventsToExclude) ∧
  (s.objects p).isField = true ∧ (s.objects p).isSet = true

end CurrentValue

end EventRegistry

namespace NotifyOne

/-- Replace an entry of `pending_notify_ones_`. -/
def setPending (s : NotifyOne) (service : ServiceKey) (eventgroup : UInt16)
    (entry : Option Notification) : NotifyOne :=
  { s with pending := fun k g =>
      if k = service ∧ g = eventgroup then entry else s.pending k g }

/-- `notify_one` for a local client. What is sent is the message of the event. -/
def notifyOne (s : NotifyOne) (n : Notification) (force : Bool) : NotifyOne :=
  match s.registry.route n with
  | none => s
  | some (p, group) =>
    if (s.registry.objects p).hasSubscriber group n.client then
      let (ev, isSent) := (s.registry.objects p).setPayload n.payload force
      { s with
        registry := s.registry.write p ev
        sent := if isSent then s.sent ++ [⟨n.client, ev.service, ev.event, ev.payload⟩] else s.sent }
    else s.setPending n.service group (some n)

/-- `send_pending_notify_ones`. -/
def sendPendingNotifyOnes (s : NotifyOne) (service : ServiceKey) (eventgroup client : UInt16) :
    NotifyOne :=
  match s.pending service eventgroup with
  | none => s
  | some n =>
    (s.notifyOne ⟨client, service, n.event, n.payload⟩ false).setPending service eventgroup none

/-- `routing_manager_base::subscribe`. -/
def baseSubscribe (cfg : NotifyConfig) (s : NotifyOne) (service : ServiceKey)
    (eventgroup event client : UInt16) : NotifyOne :=
  let (registry, inserted) :=
    s.registry.insertSubscription cfg.debounce false service eventgroup event client
  { s with
    registry := registry
    sent := if inserted then
        s.sent ++ registry.notifyOneCurrentValue service eventgroup event client
          (s.registry.alreadySubscribedEvents service eventgroup event client)
      else s.sent }

/-- `subscribe` for a service of the host, after the host has accepted it. -/
def subscribe (cfg : NotifyConfig) (s : NotifyOne) (service : ServiceKey)
    (eventgroup event client : UInt16) : NotifyOne :=
  (s.baseSubscribe cfg service eventgroup event client).sendPendingNotifyOnes service eventgroup client

/-- `event::update_cbk`, which only an event with a cycle calls. -/
def updateCbk (cfg : NotifyConfig) (s : NotifyOne) (service : ServiceKey) (event : UInt16) :
    NotifyOne :=
  if cfg.isCyclic service event then
    match s.registry.events service event with
    | some p => { s with sent := s.sent ++ (s.registry.objects p).notify }
    | none => s
  else s

/-- A step. -/
def step (cfg : NotifyConfig) (s : NotifyOne) : NotifyAction → NotifyOne
  | .notifyOne n force => { s with notified := s.notified ++ [n] }.notifyOne n force
  | .subscribe service eventgroup event client => s.subscribe cfg service eventgroup event client
  | .updateCbk service event => s.updateCbk cfg service event

/-- Some calls have registered and unregistered events. -/
def init (rs : List RegistryAction) : NotifyOne where
  registry := (Runs.run EventLedger.step EventLedger.init rs).registry
  pending := fun _ _ => none
  sent := []
  notified := []

/-- The notifications of a log for a client and an event. -/
def logFor (log : List Notification) (client : UInt16) (service : ServiceKey) (event : UInt16) :
    List Notification :=
  log.filter fun n => n.client = client ∧ n.service = service ∧ n.event = event

/-- What was sent to a client for an event are the first notifications that were addressed to it,
each once and in their order, and all of them if the client is subscribed to the event. -/
def Exact (s : NotifyOne) : Prop :=
  ∀ c k e, logFor s.sent c k e <+: logFor s.notified c k e ∧
    (s.registry.IsSubscribedEvent k e c → logFor s.sent c k e = logFor s.notified c k e)

/-- A notification is sent at once: the event is provided and has an eventgroup that exists, the
client is a subscriber through the first of these, and a field changes or is forced. -/
def Sends (s : EventRegistry) (n : Notification) (force : Bool) : Prop :=
  ∃ p g, s.route n = some (p, g) ∧ (s.objects p).hasSubscriber g n.client = true ∧
    ((s.objects p).setPayload n.payload force).2 = true

/-- A notification is parked for a client that is not subscribed: the event has an eventgroup that
exists, nothing is parked on the first of these, and nothing else for the client and the event. -/
def Parks (s : NotifyOne) (n : Notification) : Prop :=
  ∃ p g, s.registry.route n = some (p, g) ∧
    (s.registry.objects p).hasSubscriber g n.client = false ∧ s.pending n.service g = none ∧
    ∀ g' n', s.pending n.service g' = some n' → ¬ (n'.client = n.client ∧ n'.event = n.event)

/-- The condition on a step. A notification is sent or parked. When a client subscribes, no field to
which it was not subscribed before has a value; what is parked on the eventgroup is for this client and
is sent; and nothing that is parked on another eventgroup is for an event to which the client is now
subscribed. When the timer of an event expires, the event has no value, or no subscribers. -/
def Undisturbed (cfg : NotifyConfig) (s : NotifyOne) : NotifyAction → Prop
  | .notifyOne n force =>
    (s.registry.IsSubscribedEvent n.service n.event n.client → Sends s.registry n force) ∧
      (¬ s.registry.IsSubscribedEvent n.service n.event n.client → s.Parks n)
  | .subscribe service eventgroup event client =>
    let x := s.registry.insertSubscription cfg.debounce false service eventgroup event client
    (x.2 = true → ∀ p, ¬ x.1.HasCurrentValue service eventgroup event
      (s.registry.alreadySubscribedEvents service eventgroup event client) p) ∧
    (∀ n, s.pending service eventgroup = some n → n.client = client ∧
      Sends x.1 ⟨client, service, n.event, n.payload⟩ false) ∧
    ∀ g n, s.pending service g = some n → n.client = client →
      x.1.IsSubscribedEvent service n.event client → g = eventgroup
  | .updateCbk service event =>
    cfg.isCyclic service event = true → ∀ p, s.registry.events service event = some p →
      (s.registry.objects p).isSet = false ∨ (s.registry.objects p).allSubscribers = []

end NotifyOne

/-! ## Who is subscribed to an event -/

namespace EventRegistry

variable {s : EventRegistry} {service : ServiceKey} {eventgroup event client : UInt16}

/-- A subscriber that is added is the only new one. -/
lemma Owned.isSubscribedEvent_addSubscriber (hs : s.Owned) {k : ServiceKey} {e c : UInt16}
    (h : (s.addSubscriber service event eventgroup client).1.IsSubscribedEvent k e c) :
    s.IsSubscribedEvent k e c ∨ (k = service ∧ c = client) := by
  unfold EventRegistry.addSubscriber at h
  cases hq : s.events service event with
  | none =>
    rw [hq] at h
    exact .inl h
  | some q =>
    rw [hq] at h
    obtain ⟨p, g, hp, hc⟩ := h
    by_cases hpq : p = q
    · subst hpq
      simp only [EventRegistry.write, Function.update_self, Event.mem_getSubscribers_addSubscriber]
        at hc
      obtain hc | ⟨-, rfl⟩ := hc
      · exact .inl ⟨p, g, hp, hc⟩
      · exact .inr ⟨(hs.inj hp hq).1, rfl⟩
    · simp only [EventRegistry.write, Function.update_of_ne hpq] at hc
      exact .inl ⟨p, g, hp, hc⟩

/-- Making a placeholder makes nobody a subscriber of an event. -/
lemma Owned.isSubscribedEvent_registerEvent (hs : s.Owned) {r : EventRegistration}
    (hplaceholder : r.isCachePlaceholder = true) (hprovided : r.isProvided = false)
    (hgroups : r.eventgroups ≠ []) (hevent : s.events r.service r.event = none ∨ r.event = anyEvent)
    {k : ServiceKey} {e c : UInt16} (h : (s.registerEvent r).IsSubscribedEvent k e c) :
    s.IsSubscribedEvent k e c := by
  obtain ⟨p, g, hp, hc⟩ := h
  rw [events_registerEvent] at hp
  split_ifs at hp with hkey
  · obtain rfl := Option.some.inj hp
    obtain ⟨rfl, rfl⟩ := hkey
    cases hq : s.events r.service r.event with
    | none =>
      rw [hs.getSubscribers_new hplaceholder hprovided hq] at hc
      exact absurd hc (Finset.notMem_empty c)
    | some q =>
      have hptr : s.pointer r = q := by rw [pointer, hq]; rfl
      have hany : r.event = anyEvent := hevent.resolve_left (by rw [hq]; simp)
      rw [hptr, getSubscribers_placeholder hplaceholder hgroups hq hany] at hc
      exact ⟨q, g, hq, hc⟩
  · rw [objects_registerEvent_of_ne r (hs.ne_pointer r hp hkey)] at hc
    exact ⟨p, g, hp, hc⟩

/-- A subscription concerns its client and its service instance only. -/
lemma Owned.isSubscribedEvent_insertSubscription (hs : s.Owned)
    (debounce : List UInt8 → List UInt8 → Bool) (isShadow : Bool) {k : ServiceKey} {e c : UInt16}
    (h : (s.insertSubscription debounce isShadow service eventgroup event
      client).1.IsSubscribedEvent k e c) :
    s.IsSubscribedEvent k e c ∨ (k = service ∧ c = client) := by
  have hcreate : (s.events service event = none ∨ event = anyEvent) →
      ((s.registerEvent (placeholderRegistration debounce isShadow client service event
        eventgroup)).addSubscriber service event eventgroup client).1.IsSubscribedEvent k e c →
      s.IsSubscribedEvent k e c ∨ (k = service ∧ c = client) := by
    intro hevent hadded
    refine ((hs.registerEvent _).isSubscribedEvent_addSubscriber hadded).imp_left fun hregistered => ?_
    exact hs.isSubscribedEvent_registerEvent rfl rfl (List.cons_ne_nil eventgroup []) hevent
      hregistered
  unfold EventRegistry.insertSubscription at h
  by_cases hany : event = anyEvent
  · simp only [hany, ne_eq, not_true_eq_false, if_false] at h
    split_ifs at h with hcard
    · rw [hany] at hcreate
      exact hcreate (.inr rfl) h
    · obtain ⟨p, g, hp, hc⟩ := h
      simp only [EventRegistry.modifyAll] at hp hc
      split_ifs at hc with hlisted
      · rw [Event.mem_getSubscribers_addSubscriber] at hc
        obtain hc | ⟨-, rfl⟩ := hc
        · exact .inl ⟨p, g, hp, hc⟩
        · exact .inr ⟨(hs.key hp).1.symm.trans (hs.listed_service hlisted), rfl⟩
      · exact .inl ⟨p, g, hp, hc⟩
  · simp only [hany, ne_eq, not_false_eq_true, if_true] at h
    split_ifs at h with hp
    · exact hs.isSubscribedEvent_addSubscriber h
    · exact hcreate (.inl (Option.not_isSome_iff_eq_none.mp hp)) h

/-- An eventgroup without fields has no current values. -/
lemma not_hasCurrentValue_of_forall {eventsToExclude : Finset UInt16}
    (h : ∀ p ∈ s.findEvents service eventgroup, (s.objects p).isField = false) (p : ℕ) :
    ¬ s.HasCurrentValue service eventgroup anyEvent eventsToExclude p := by
  rintro ⟨hp, hfield, -⟩
  rw [if_neg (not_not.mpr rfl)] at hp
  exact absurd hfield (Bool.eq_false_iff.mp (h p hp.1))

/-- Nothing is sent to a client if no field has a value. -/
lemma notifyOneCurrentValue_eq_nil {eventsToExclude : Finset UInt16}
    (h : ∀ p, ¬ s.HasCurrentValue service eventgroup event eventsToExclude p) :
    s.notifyOneCurrentValue service eventgroup event client eventsToExclude = [] := by
  have hunset {p : ℕ} (hp : if event ≠ anyEvent then s.events service event = some p
      else p ∈ s.findEvents service eventgroup ∧ (s.objects p).event ∉ eventsToExclude)
      (hfield : (s.objects p).isField = true) : (s.objects p).notifyOne client = [] :=
    if_neg fun hset => h p ⟨hp, hfield, hset⟩
  unfold notifyOneCurrentValue
  by_cases hany : event ≠ anyEvent
  · rw [if_pos hany, findEvent]
    cases hp : s.events service event with
    | none => rfl
    | some p =>
      refine ite_eq_right_iff.mpr fun hfield => hunset ?_ hfield
      rw [if_pos hany]
      exact hp
  · rw [if_neg hany]
    refine List.flatMap_eq_nil_iff.mpr fun p hp => ite_eq_right_iff.mpr fun hfield => ?_
    refine hunset ?_ hfield.1
    rw [if_neg hany]
    exact ⟨(Finset.mem_sort _).mp hp, hfield.2⟩

/-- Writing an event with the same subscribers. -/
lemma isSubscribedEvent_write {p : ℕ} {ev : Event}
    (hev : ∀ g, ev.getSubscribers g = (s.objects p).getSubscribers g) (k : ServiceKey)
    (e c : UInt16) : (s.write p ev).IsSubscribedEvent k e c ↔ s.IsSubscribedEvent k e c := by
  refine exists_congr fun q => exists_congr fun g => and_congr Iff.rfl ?_
  by_cases hq : q = p
  · subst hq
    simp only [EventRegistry.write, Function.update_self, hev]
  · simp only [EventRegistry.write, Function.update_of_ne hq]

end EventRegistry

/-! ## The operations -/

namespace Event

variable {ev : Event} {payload : List UInt8} {force : Bool}

/-- A payload that is sent is the value of the event. -/
lemma setPayload_of_sent (h : (ev.setPayload payload force).2 = true) :
    (ev.setPayload payload force).1 = { ev with payload := payload, isSet := true } := by
  unfold setPayload at h ⊢
  split_ifs at h ⊢
  rfl

end Event

namespace NotifyOne

variable {cfg : NotifyConfig} {s : NotifyOne} {n : Notification} {force : Bool}

/-- The invariant: what is parked for a client and an event is the last notification that was
addressed to it and the only one that was not sent, and the client is not subscribed to the event. -/
structure Inv (s : NotifyOne) : Prop where
  owned : s.registry.Owned
  service_eq : ∀ {k g n}, s.pending k g = some n → n.service = k
  unsubscribed : ∀ {k g n}, s.pending k g = some n →
    ¬ s.registry.IsSubscribedEvent k n.event n.client
  unique : ∀ {k g g' n n'}, s.pending k g = some n → s.pending k g' = some n' →
    n.client = n'.client → n.event = n'.event → g = g'
  parked : ∀ {k g n}, s.pending k g = some n →
    logFor s.notified n.client k n.event = logFor s.sent n.client k n.event ++ [n]
  sent : ∀ {c k e}, (∀ g n, s.pending k g = some n → ¬ (n.client = c ∧ n.event = e)) →
    logFor s.notified c k e = logFor s.sent c k e

/-- The invariant gives the property. -/
lemma Inv.exact (hs : s.Inv) : s.Exact := by
  intro c k e
  by_cases h : ∃ g n, s.pending k g = some n ∧ n.client = c ∧ n.event = e
  · obtain ⟨g, n, hn, rfl, rfl⟩ := h
    rw [hs.parked hn]
    exact ⟨List.prefix_append _ _, fun hsub => absurd hsub (hs.unsubscribed hn)⟩
  · have heq : logFor s.notified c k e = logFor s.sent c k e :=
      hs.sent fun g n hn hce => h ⟨g, n, hn, hce⟩
    rw [heq]
    exact ⟨List.prefix_rfl, fun _ => rfl⟩

/-- The notifications of a client and an event after one more. -/
lemma logFor_append (log : List Notification) (n : Notification) (c : UInt16) (k : ServiceKey)
    (e : UInt16) : logFor (log ++ [n]) c k e =
      if n.client = c ∧ n.service = k ∧ n.event = e then logFor log c k e ++ [n]
      else logFor log c k e := by
  unfold logFor
  rw [List.filter_append]
  split_ifs with h
  · rw [List.filter_singleton, decide_eq_true h]
    rfl
  · rw [List.filter_singleton, decide_eq_false h]
    exact List.append_nil _

/-- The parked notifications after one entry is set. -/
lemma pending_setPending (service : ServiceKey) (eventgroup : UInt16) (entry : Option Notification)
    (k : ServiceKey) (g : UInt16) : (s.setPending service eventgroup entry).pending k g =
      if k = service ∧ g = eventgroup then entry else s.pending k g := rfl

/-- The event of a route is that of the notification. -/
lemma route_eq_some {r : EventRegistry} {p : ℕ} {g : UInt16} (h : r.route n = some (p, g)) :
    r.events n.service n.event = some p := by
  obtain ⟨q, hq, hg⟩ := Option.bind_eq_some_iff.mp h
  obtain ⟨g', -, heq⟩ := Option.map_eq_some_iff.mp hg
  rw [hq, (Prod.mk.inj heq).1]

/-- A notification that is sent at once. -/
lemma notifyOne_of_sends (hs : s.registry.Owned) (h : Sends s.registry n force) : ∃ p ev,
    s.notifyOne n force = { s with registry := s.registry.write p ev, sent := s.sent ++ [n] } ∧
      (ev.service = (s.registry.objects p).service ∧ ev.event = (s.registry.objects p).event) ∧
      ∀ g, ev.getSubscribers g = (s.registry.objects p).getSubscribers g := by
  obtain ⟨p, g, hroute, hsubscriber, hsent⟩ := h
  obtain ⟨hservice, hevent⟩ := hs.key (route_eq_some hroute)
  refine ⟨p, { s.registry.objects p with payload := n.payload, isSet := true }, ?_, ⟨rfl, rfl⟩,
    fun _ => rfl⟩
  simp only [notifyOne, hroute, hsubscriber, if_true, hsent, Event.setPayload_of_sent hsent,
    hservice, hevent]

/-- A notification that is parked. -/
lemma notifyOne_of_parks (h : s.Parks n) : ∃ g, s.notifyOne n force =
    s.setPending n.service g (some n) ∧ s.pending n.service g = none := by
  obtain ⟨p, g, hroute, hsubscriber, hnone, -⟩ := h
  refine ⟨g, ?_, hnone⟩
  simp only [notifyOne, hroute, hsubscriber, Bool.false_eq_true, if_false]

/-! ## Steps -/

/-- A notification that is sent keeps the invariant. -/
lemma Inv.step_notifyOne_of_sends (hs : s.Inv)
    (hsub : s.registry.IsSubscribedEvent n.service n.event n.client)
    (hsends : Sends s.registry n force) : (s.step cfg (.notifyOne n force)).Inv := by
  obtain ⟨p, ev, heq, hkey, hev⟩ := @notifyOne_of_sends { s with notified := s.notified ++ [n] } n
    force hs.owned hsends
  rw [step, heq]
  refine ⟨hs.owned.write hkey, hs.service_eq, fun {k g m} hm => ?_, hs.unique, fun {k g m} hm => ?_,
    fun {c k e} hnone => ?_⟩
  · rw [EventRegistry.isSubscribedEvent_write hev]
    exact hs.unsubscribed hm
  · have hne : ¬ (n.client = m.client ∧ n.service = k ∧ n.event = m.event) := by
      rintro ⟨hc, rfl, he⟩
      rw [hc, he] at hsub
      exact hs.unsubscribed hm hsub
    simp only [logFor_append, if_neg hne]
    exact hs.parked hm
  · simp only [logFor_append]
    split_ifs with hfor
    · rw [hs.sent hnone]
    · exact hs.sent hnone

/-- A notification that is parked keeps the invariant. -/
lemma Inv.step_notifyOne_of_parks (hs : s.Inv)
    (hsub : ¬ s.registry.IsSubscribedEvent n.service n.event n.client) (hparks : s.Parks n) :
    (s.step cfg (.notifyOne n force)).Inv := by
  obtain ⟨g₀, heq, hfree⟩ := @notifyOne_of_parks { s with notified := s.notified ++ [n] } n force
    hparks
  obtain ⟨-, -, -, -, -, hother⟩ := hparks
  rw [step, heq]
  -- What is parked afterwards is the new notification, or was parked before for somebody else.
  have hcases : ∀ {k g m},
      (setPending { s with notified := s.notified ++ [n] } n.service g₀ (some n)).pending k g =
        some m → (k = n.service ∧ g = g₀ ∧ m = n) ∨
      (s.pending k g = some m ∧ ¬ (n.client = m.client ∧ n.service = k ∧ n.event = m.event)) := by
    intro k g m hm
    rw [pending_setPending] at hm
    split_ifs at hm with hkey
    · exact .inl ⟨hkey.1, hkey.2, (Option.some.inj hm).symm⟩
    · refine .inr ⟨hm, ?_⟩
      rintro ⟨hc, rfl, he⟩
      exact hother g m hm ⟨hc.symm, he.symm⟩
  refine ⟨hs.owned, fun {k g m} hm => ?_, fun {k g m} hm => ?_, fun {k g g' m m'} hm hm' hc he => ?_,
    fun {k g m} hm => ?_, fun {c k e} hnone => ?_⟩
  · obtain ⟨rfl, rfl, rfl⟩ | ⟨hm, -⟩ := hcases hm
    · rfl
    · exact hs.service_eq hm
  · obtain ⟨rfl, rfl, rfl⟩ | ⟨hm, -⟩ := hcases hm
    · exact hsub
    · exact hs.unsubscribed hm
  · obtain ⟨rfl, rfl, rfl⟩ | ⟨hm, hne⟩ := hcases hm
    · obtain ⟨-, rfl, -⟩ | ⟨hm', hne'⟩ := hcases hm'
      · rfl
      · exact absurd ⟨hc, rfl, he⟩ hne'
    · obtain ⟨rfl, rfl, rfl⟩ | ⟨hm', -⟩ := hcases hm'
      · exact absurd ⟨hc.symm, rfl, he.symm⟩ hne
      · exact hs.unique hm hm' hc he
  · obtain ⟨rfl, rfl, rfl⟩ | ⟨hm, hne⟩ := hcases hm
    · show logFor (s.notified ++ [m]) m.client m.service m.event = _
      rw [logFor_append, if_pos ⟨rfl, rfl, rfl⟩]
      refine congrArg (· ++ [m]) (hs.sent fun g m' hm' hce => hother g m' hm' hce)
    · show logFor (s.notified ++ [n]) m.client k m.event = _
      rw [logFor_append, if_neg hne]
      exact hs.parked hm
  · show logFor (s.notified ++ [n]) c k e = _
    have hne : ¬ (n.client = c ∧ n.service = k ∧ n.event = e) := by
      rintro ⟨hc, rfl, he⟩
      refine hnone g₀ n ?_ ⟨hc, he⟩
      rw [pending_setPending, if_pos ⟨rfl, rfl⟩]
    rw [logFor_append, if_neg hne]
    refine hs.sent fun g m hm => hnone g m ?_
    rw [pending_setPending, if_neg]
    · exact hm
    · rintro ⟨rfl, rfl⟩
      exact absurd (hm.symm.trans hfree) (by simp)

section Subscribe

variable {service : ServiceKey} {eventgroup event client : UInt16}

/-- The state after the client is inserted, before anything is sent to it. -/
def inserted (cfg : NotifyConfig) (s : NotifyOne) (service : ServiceKey)
    (eventgroup event client : UInt16) : NotifyOne :=
  { s with registry :=
      (s.registry.insertSubscription cfg.debounce false service eventgroup event client).1 }

/-- No current value is sent to the client. -/
lemma baseSubscribe_of_undisturbed
    (hgood : s.Undisturbed cfg (.subscribe service eventgroup event client)) :
    s.baseSubscribe cfg service eventgroup event client =
      s.inserted cfg service eventgroup event client := by
  unfold baseSubscribe
  dsimp only
  split_ifs with hinserted
  · rw [EventRegistry.notifyOneCurrentValue_eq_nil (hgood.1 hinserted), List.append_nil]
    rfl
  · rfl

/-- Who is subscribed now to the event of a parked notification was not before, so that it is the
client and the notification is parked on its eventgroup. -/
lemma Inv.unsubscribed_inserted (hs : s.Inv)
    (hgood : s.Undisturbed cfg (.subscribe service eventgroup event client)) {k : ServiceKey}
    {g : UInt16} (hn : s.pending k g = some n) (hne : ¬ (k = service ∧ g = eventgroup)) :
    ¬ (s.inserted cfg service eventgroup event client).registry.IsSubscribedEvent k n.event
      n.client := by
  intro hsub
  obtain hold | ⟨rfl, rfl⟩ := hs.owned.isSubscribedEvent_insertSubscription cfg.debounce false hsub
  · exact hs.unsubscribed hn hold
  · exact hne ⟨rfl, hgood.2.2 g n hn rfl hsub⟩

/-- Nothing is parked on the eventgroup. -/
lemma Inv.step_subscribe_of_none (hs : s.Inv)
    (hgood : s.Undisturbed cfg (.subscribe service eventgroup event client))
    (hnone : s.pending service eventgroup = none) :
    (s.step cfg (.subscribe service eventgroup event client)).Inv := by
  have heq : s.step cfg (.subscribe service eventgroup event client) =
      s.inserted cfg service eventgroup event client := by
    simp only [step, subscribe, baseSubscribe_of_undisturbed hgood, sendPendingNotifyOnes]
    rw [show (s.inserted cfg service eventgroup event client).pending = s.pending from rfl, hnone]
  rw [heq]
  refine ⟨hs.owned.insertSubscription cfg.debounce false service eventgroup event client, hs.service_eq,
    fun {k g m} hm => hs.unsubscribed_inserted hgood hm ?_, hs.unique, hs.parked, hs.sent⟩
  rintro ⟨rfl, rfl⟩
  exact absurd (hnone.symm.trans hm) (by simp)

/-- What is parked on the eventgroup is sent to the client. -/
lemma Inv.step_subscribe_of_some (hs : s.Inv)
    (hgood : s.Undisturbed cfg (.subscribe service eventgroup event client))
    (hn : s.pending service eventgroup = some n) :
    (s.step cfg (.subscribe service eventgroup event client)).Inv := by
  obtain ⟨hclient, hsends⟩ := hgood.2.1 n hn
  have hservice := hs.service_eq hn
  have hself : (⟨client, service, n.event, n.payload⟩ : Notification) = n := by
    rw [← hclient, ← hservice]
  rw [hself] at hsends
  have howned := hs.owned.insertSubscription cfg.debounce false service eventgroup event client
  obtain ⟨p, ev, heq, hkey, hev⟩ := @notifyOne_of_sends
    (s.inserted cfg service eventgroup event client) n false howned hsends
  have hstep : s.step cfg (.subscribe service eventgroup event client) =
      setPending { s.inserted cfg service eventgroup event client with
          registry :=
            (s.inserted cfg service eventgroup event client).registry.write p ev
          sent := s.sent ++ [n] } service eventgroup none := by
    simp only [step, subscribe, baseSubscribe_of_undisturbed hgood, sendPendingNotifyOnes]
    rw [show (s.inserted cfg service eventgroup event client).pending = s.pending from rfl, hn]
    simp only [hself]
    exact congrArg (fun t => setPending t service eventgroup none) heq
  rw [hstep]
  -- The other entries are for other clients or events, since there is one entry for each.
  have hcases : ∀ {k g m}, (if k = service ∧ g = eventgroup then none else s.pending k g) = some m →
      s.pending k g = some m ∧ ¬ (k = service ∧ g = eventgroup) ∧
        ¬ (n.client = m.client ∧ n.service = k ∧ n.event = m.event) := by
    intro k g m hm
    split_ifs at hm with hkey'
    refine ⟨hm, hkey', ?_⟩
    rintro ⟨hc, rfl, he⟩
    rw [← hservice] at hn hkey'
    exact hkey' ⟨rfl, hs.unique hm hn hc.symm he.symm⟩
  refine ⟨howned.write hkey, fun {k g m} hm => hs.service_eq (hcases hm).1, fun {k g m} hm => ?_,
    fun {k g g' m m'} hm hm' => hs.unique (hcases hm).1 (hcases hm').1, fun {k g m} hm => ?_,
    fun {c k e} hnone => ?_⟩
  · obtain ⟨hm, hne, -⟩ := hcases hm
    show ¬ EventRegistry.IsSubscribedEvent (EventRegistry.write _ p ev) k m.event m.client
    rw [EventRegistry.isSubscribedEvent_write hev]
    exact hs.unsubscribed_inserted hgood hm hne
  · obtain ⟨hm, -, hne⟩ := hcases hm
    show logFor s.notified m.client k m.event = logFor (s.sent ++ [n]) m.client k m.event ++ [m]
    rw [logFor_append, if_neg hne]
    exact hs.parked hm
  · show logFor s.notified c k e = logFor (s.sent ++ [n]) c k e
    rw [logFor_append]
    split_ifs with hfor
    · obtain ⟨rfl, rfl, rfl⟩ := hfor
      rw [hservice]
      exact hs.parked hn
    · refine hs.sent fun g m hm hce => hnone g m ?_ hce
      refine (if_neg ?_).trans hm
      rintro ⟨rfl, rfl⟩
      obtain rfl := Option.some.inj (hm.symm.trans hn)
      exact hfor ⟨hce.1, hservice, hce.2⟩

end Subscribe

/-- Nothing is sent when the timer of an event expires. -/
lemma updateCbk_of_undisturbed {service : ServiceKey} {event : UInt16}
    (hgood : s.Undisturbed cfg (.updateCbk service event)) : s.updateCbk cfg service event = s := by
  unfold updateCbk
  split_ifs with hcyclic
  · cases hp : s.registry.events service event with
    | none => rfl
    | some p =>
      have hnothing : (s.registry.objects p).notify = [] := by
        obtain hunset | hempty := hgood hcyclic p hp
        · refine List.flatMap_eq_nil_iff.mpr fun c _ => ?_
          rw [Event.notifyOne, hunset]
          rfl
        · rw [Event.notify, hempty]
          rfl
      dsimp only
      rw [hnothing, List.append_nil]
  · rfl

/-- A step that meets the condition keeps the invariant. -/
lemma Inv.step (hs : s.Inv) {a : NotifyAction} (hgood : s.Undisturbed cfg a) :
    (s.step cfg a).Inv := by
  cases a with
  | notifyOne n force =>
    by_cases hsub : s.registry.IsSubscribedEvent n.service n.event n.client
    · exact hs.step_notifyOne_of_sends hsub (hgood.1 hsub)
    · exact hs.step_notifyOne_of_parks hsub (hgood.2 hsub)
  | subscribe service eventgroup event client =>
    cases hn : s.pending service eventgroup with
    | none => exact hs.step_subscribe_of_none hgood hn
    | some n => exact hs.step_subscribe_of_some hgood hn
  | updateCbk service event =>
    have hsame : s.step cfg (.updateCbk service event) = s := updateCbk_of_undisturbed hgood
    exact hsame.symm ▸ hs

/-- The invariant holds after registrations. -/
lemma inv_init (rs : List RegistryAction) : (init rs).Inv where
  owned := (EventLedger.owned_unsubscribed_run rs).1
  service_eq h := by cases h
  unsubscribed h := by cases h
  unique h := by cases h
  parked h := by cases h
  sent _ := rfl

/-- In every run of notifications, subscriptions and timers whose steps meet the condition, after every
step what was sent to a client for an event are the first notifications that were addressed to it, and
all of them if the client is subscribed to the event.

**Proof sketch.** What was addressed to a client for an event is what was sent followed by what is
parked, which is at most one notification. A step appends to the addressed and the sent ones, or to
the addressed and the parked ones, or moves what is parked to the sent ones. -/
theorem exact_along (cfg : NotifyConfig) (rs : List RegistryAction) (as : List NotifyAction)
    (h : Runs.Along (step cfg) (Undisturbed cfg) (init rs) as) :
    Runs.Along (step cfg) (fun s a => (s.step cfg a).Exact) (init rs) as :=
  @Runs.along_of_inv _ _ (step cfg) Inv (Undisturbed cfg) _
    (fun {_ _} hs hgood => ⟨hs.step hgood, (hs.step hgood).exact⟩) as _ (inv_init rs) h

/-- The host provides event 0x8001 of service 0x1234, instance 1, in eventgroup 1. -/
def exampleEvent (isField : Bool) : RegistryAction :=
  .register
    { client := 0x100, service := (0x1234, 1), event := 0x8001, eventgroups := [1],
      isField := isField, epsilonChange := none, debounce := fun _ _ => true, isProvided := true,
      isShadow := false, isCachePlaceholder := false }

/-- A notification of this event. -/
def exampleNotification (client : UInt16) (payload : UInt8) : Notification :=
  ⟨client, (0x1234, 1), 0x8001, [payload]⟩

/-- A client subscribes to the eventgroup. -/
def exampleSubscribe (client : UInt16) : NotifyAction :=
  .subscribe (0x1234, 1) 1 anyEvent client

/-- The events may have a cycle. -/
def exampleNotifyConfig (isCyclic : Bool) : NotifyConfig :=
  ⟨fun _ _ => true, fun _ _ => isCyclic⟩

/-- A client is notified, subscribes and is notified again. -/
theorem exact_along_early :
    Runs.Along (step (exampleNotifyConfig false))
      (fun s a => (s.step (exampleNotifyConfig false) a).Exact) (init [exampleEvent false])
      [.notifyOne (exampleNotification 0x101 1) false, exampleSubscribe 0x101,
        .notifyOne (exampleNotification 0x101 2) false] := by
  have hsubscribed : (Runs.run (step (exampleNotifyConfig false)) (init [exampleEvent false])
      [.notifyOne (exampleNotification 0x101 1) false,
        exampleSubscribe 0x101]).registry.IsSubscribedEvent (0x1234, 1) 0x8001 0x101 :=
    ⟨0, 1, by decide +kernel, by decide +kernel⟩
  refine exact_along _ _ _ ⟨⟨fun hsub => ?_, fun _ => ?_⟩,
    ⟨fun _ => EventRegistry.not_hasCurrentValue_of_forall (by decide +kernel), fun n hn => ?_, fun g n hn _ _ => ?_⟩,
    ⟨fun _ => ?_, fun hnot => absurd hsubscribed hnot⟩, trivial⟩
  · obtain ⟨p, g, -, hc⟩ := hsub
    rw [init, (EventLedger.owned_unsubscribed_run [exampleEvent false]).2 p g] at hc
    exact absurd hc (Finset.notMem_empty _)
  · exact ⟨0, 1, by decide, by decide, rfl, fun _ _ hn => by cases hn⟩
  · obtain rfl : exampleNotification 0x101 1 = n := Option.some.inj hn
    exact ⟨rfl, 0, 1, by decide, by decide, by decide⟩
  · by_contra hne
    have hslot : (if ((0x1234, 1) : ServiceKey) = (0x1234, 1) ∧ g = 1 then
        some (exampleNotification 0x101 1) else none) = some n := hn
    rw [if_neg fun h => hne h.2] at hslot
    cases hslot
  · exact ⟨0, 1, by decide +kernel, by decide +kernel, by decide +kernel⟩

/-- Two clients are notified before they subscribe: the second notification takes the place of the
first, and is sent to the first client when it subscribes. A client that is subscribed to a field is
notified: the next client that subscribes gets its payload. And a client that is subscribed to an event
with a cycle is notified: it gets the payload again when the timer expires. -/
theorem not_exact_two_clients :
    ¬ Runs.Along (step (exampleNotifyConfig true))
      (fun s a => (s.step (exampleNotifyConfig true) a).Exact) (init [exampleEvent false])
      [.notifyOne (exampleNotification 0x101 1) false,
        .notifyOne (exampleNotification 0x102 2) false, exampleSubscribe 0x101] ∧
    ¬ Runs.Along (step (exampleNotifyConfig true))
      (fun s a => (s.step (exampleNotifyConfig true) a).Exact) (init [exampleEvent true])
      [exampleSubscribe 0x101, .notifyOne (exampleNotification 0x101 1) false,
        exampleSubscribe 0x102] ∧
    ¬ Runs.Along (step (exampleNotifyConfig true))
      (fun s a => (s.step (exampleNotifyConfig true) a).Exact) (init [exampleEvent false])
      [exampleSubscribe 0x101, .notifyOne (exampleNotification 0x101 1) false,
        .updateCbk (0x1234, 1) 0x8001] := by
  refine ⟨fun h => ?_, fun h => ?_, fun h => ?_⟩
  · obtain ⟨-, -, hlast, -⟩ := h
    exact absurd (hlast 0x101 (0x1234, 1) 0x8001).1 (by decide +kernel)
  · obtain ⟨-, -, hlast, -⟩ := h
    exact absurd (hlast 0x102 (0x1234, 1) 0x8001).1 (by decide +kernel)
  · obtain ⟨-, -, hlast, -⟩ := h
    exact absurd (hlast 0x101 (0x1234, 1) 0x8001).1 (by decide +kernel)

end NotifyOne

end Vsomeip
