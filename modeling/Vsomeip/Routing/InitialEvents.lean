import Vsomeip.Routing.NotifyOne

set_option relaxedAutoImplicit false
set_option autoImplicit false

/-!
# Initial events

A client that subscribes to fields gets their current values. `routing_manager_base::subscribe` sends
them after `insert_subscription`, which notes the events to which the client was subscribed before, so
that a field that belongs to several eventgroups is not sent again. The notes are made only when the
client subscribes to a whole eventgroup. A client that subscribes to a single field through a second
eventgroup gets its value again.

The fields have been registered and set before the subscriptions. Several clients may subscribe, to any
service instances.

## Main definitions

* `Vsomeip.InitialEvents.subscribe` — the function of the source.
* `Vsomeip.InitialEvents.SentOnce` — a client was sent the values of exactly the fields to which it is
  subscribed, once each.
* `Vsomeip.InitialEvents.Fresh` — the condition on a call.

## Main results

* `Vsomeip.EventRegistry.Owned.subscribes_insertSubscription` — what a call changes.
* `Vsomeip.InitialEvents.sentOnce_along_iff` — when the values are sent once.
-/

namespace Vsomeip

open Std (TreeMap)

/-! ## The tables -/

/-- The events, and what was sent to the clients. -/
structure InitialEvents where
  registry : EventRegistry
  sent : List Notification

/-- The arguments of `subscribe` that are used. -/
structure SubscribeCall where
  client : UInt16
  service : ServiceKey
  eventgroup : UInt16
  event : UInt16

namespace InitialEvents

section Step

variable (debounce : List UInt8 → List UInt8 → Bool) (isShadow : ServiceKey → Bool) (s : InitialEvents)

/-- `routing_manager_base::subscribe`. -/
def subscribe (a : SubscribeCall) : InitialEvents :=
  let alreadySubscribed :=
    s.registry.alreadySubscribedEvents a.service a.eventgroup a.event a.client
  let (registry, inserted) :=
    s.registry.insertSubscription debounce (isShadow a.service) a.service a.eventgroup a.event a.client
  { registry
    sent := if inserted then
        s.sent ++ registry.notifyOneCurrentValue a.service a.eventgroup a.event a.client
          alreadySubscribed
      else s.sent }

end Step

/-- Some events have been registered, and some of them have been set. -/
def init (rs : List EventRegistration) (values : ℕ → Option (List UInt8)) : InitialEvents where
  registry :=
    let s := rs.foldl (fun (s : EventRegistry) r => s.registerEvent { r with isCachePlaceholder := false })
      EventRegistry.empty
    { s with objects := fun p =>
        match values p with
        | some payload => { s.objects p with payload := payload, isSet := true }
        | none => s.objects p }
  sent := []

end InitialEvents

namespace EventRegistry

/-- A field of a service instance that is set. -/
structure IsField (s : EventRegistry) (service : ServiceKey) (event : UInt16) (p : ℕ) : Prop where
  registered : s.events service event = some p
  isField : (s.objects p).isField = true
  isSet : (s.objects p).isSet = true

/-- A call subscribes to one event: it names the event, or the eventgroup has none. -/
def IsSingle (s : EventRegistry) (a : SubscribeCall) : Prop :=
  a.event ≠ anyEvent ∨ s.findEvents a.service a.eventgroup = ∅

/-- A call subscribes to an event. -/
def Covers (s : EventRegistry) (a : SubscribeCall) (p : ℕ) : Prop :=
  (s.IsSingle a ∧ s.events a.service a.event = some p) ∨
    (¬ s.IsSingle a ∧ p ∈ s.findEvents a.service a.eventgroup)

end EventRegistry

namespace InitialEvents

/-- For each field that is set, a client was sent the value once if it is subscribed to the field, and
otherwise not. -/
def SentOnce (s : InitialEvents) : Prop :=
  ∀ client service event p, s.registry.IsField service event p →
    (s.registry.IsSubscribedEvent service event client →
      NotifyOne.logFor s.sent client service event =
        [⟨client, service, event, (s.registry.objects p).payload⟩]) ∧
    (¬ s.registry.IsSubscribedEvent service event client →
      NotifyOne.logFor s.sent client service event = [])

/-- If a call subscribes to one event, and this is a field that is set, then the client is not
subscribed to it through another eventgroup only. -/
def Fresh (s : InitialEvents) (a : SubscribeCall) : Prop :=
  s.registry.IsSingle a → ∀ p, s.registry.IsField a.service a.event p →
    s.registry.IsSubscribedEvent a.service a.event a.client →
      a.client ∈ (s.registry.objects p).getSubscribers a.eventgroup

end InitialEvents

/-! ## Lemmas on events -/

namespace Event

variable (ev : Event) (client : UInt16)

/-- A client is subscribed to an event through one of its eventgroups. -/
lemma isSubscribed_iff : ev.isSubscribed client = true ↔ ∃ g, client ∈ ev.getSubscribers g := by
  simp only [isSubscribed, List.any_eq_true, decide_eq_true_eq, Prod.exists,
    TreeMap.mem_toList_iff_getElem?_eq_some, getSubscribers, TreeMap.getD_eq_getD_getElem?]
  refine exists_congr fun g => ?_
  cases ev.eventgroups[g]? with
  | none => simp
  | some clients => simp

/-- What an initial event adds to the notifications of a client. -/
lemma logFor_notifyOne (c : UInt16) (k : ServiceKey) (e : UInt16) :
    NotifyOne.logFor (ev.notifyOne client) c k e =
      if ev.isSet ∧ client = c ∧ ev.service = k ∧ ev.event = e then [⟨c, k, e, ev.payload⟩]
      else [] := by
  unfold notifyOne NotifyOne.logFor
  split_ifs <;> simp_all

end Event

/-! ## Tables with fields -/

namespace EventRegistry

/-- The eventgroups list events that are registered, and no placeholder is set. -/
structure FieldTables (s : EventRegistry) : Prop where
  owned : s.Owned
  listed : ∀ {k g p}, p ∈ s.findEvents k g → s.events k (s.objects p).event = some p
  placeholder : ∀ {k e p}, s.events k e = some p → (s.objects p).isCachePlaceholder = true →
    (s.objects p).isSet = false

/-- A client has become a subscriber of some events through an eventgroup. -/
structure Subscribes (s s' : EventRegistry) (P : ℕ → Prop) (eventgroup client : UInt16) : Prop where
  isField_iff : ∀ k e p, s'.IsField k e p ↔ s.IsField k e p
  payload_eq : ∀ {k e p}, s.IsField k e p → (s'.objects p).payload = (s.objects p).payload
  subscribers : ∀ {k e p}, s.IsField k e p → ∀ g c, c ∈ (s'.objects p).getSubscribers g ↔
    c ∈ (s.objects p).getSubscribers g ∨ (P p ∧ g = eventgroup ∧ c = client)

variable {s : EventRegistry} {service : ServiceKey} {eventgroup event client : UInt16}

/-- What a registration makes of an event that is there. -/
lemma registered_of_some (hs : s.FieldTables) {r : EventRegistration} {p : ℕ}
    (hp : s.events r.service r.event = some p) :
    (s.registered r).isCachePlaceholder = false ∧
      (s.registered r).isSet = (s.objects p).isSet ∧
      ((s.objects p).isSet = true → (s.registered r).isField = (s.objects p).isField ∧
        (s.registered r).payload = (s.objects p).payload) := by
  cases hplaceholder : (s.objects p).isCachePlaceholder with
  | true =>
    have hunset := hs.placeholder hp hplaceholder
    obtain ⟨m, hm, -⟩ := r.fill_eq (s.objects p)
    rw [registered_of_placeholder r hp hplaceholder, hm]
    exact ⟨rfl, by simp [hunset], by simp [hunset]⟩
  | false =>
    by_cases hfield : (s.objects p).isField = r.isField
    · obtain ⟨m, hm, -⟩ := registered_of_isField_eq r hp hplaceholder hfield
      rw [hm]
      exact ⟨hplaceholder, rfl, fun _ => ⟨rfl, rfl⟩⟩
    · rw [registered_of_isField_ne r hp hplaceholder hfield]
      exact ⟨hplaceholder, rfl, fun _ => ⟨rfl, rfl⟩⟩

/-- What a registration makes of an event that is not there. -/
lemma registered_of_none (hs : s.FieldTables) {r : EventRegistration}
    (hp : s.events r.service r.event = none) : (s.registered r).isSet = false := by
  obtain ⟨m, hm, -⟩ := hs.owned.registered_of_none r hp
  obtain ⟨m', hm', -⟩ := r.create_eq
  rw [hm, hm']
  rfl

/-- A reference that is added changes nothing else. -/
lemma withRef_eq (r : EventRegistration) :
    ∃ refs, s.withRef r = { s.registered r with refs := refs } := by
  unfold withRef
  split_ifs
  · exact ⟨(s.registered r).refs, rfl⟩
  · exact ⟨_, rfl⟩

/-- A registration keeps the tables. -/
lemma FieldTables.registerEvent (hs : s.FieldTables) (r : EventRegistration) :
    (s.registerEvent r).FieldTables where
  owned := hs.owned.registerEvent r
  listed := fun {k g p} hp => by
    rw [mem_findEvents_registerEvent] at hp
    rw [events_registerEvent]
    by_cases hptr : p = s.pointer r
    · have hkey := hs.owned.key_withRef r
      have hk : k = r.service := by
        rcases hp with ⟨hk, -, -⟩ | hp
        · exact hk
        · rw [← (hs.owned.registerEvent r).listed_service
            ((mem_findEvents_registerEvent s r k g p).mpr (Or.inr hp)), hptr, objects_registerEvent_pointer]
          exact hkey.1
      rw [hptr, objects_registerEvent_pointer, if_pos ⟨hk, hkey.2⟩]
    · have hold := hs.listed (hp.resolve_left fun h => hptr h.2.2)
      rw [objects_registerEvent_of_ne r hptr, if_neg, hold]
      rintro ⟨rfl, hevent⟩
      rw [hevent] at hold
      refine hptr ?_
      rw [pointer, hold]
      rfl
  placeholder := fun {k e p} hp hplaceholder => by
    rw [events_registerEvent] at hp
    split_ifs at hp with hkey
    · obtain rfl := Option.some.inj hp
      rw [objects_registerEvent_pointer] at hplaceholder ⊢
      obtain ⟨refs, hrefs⟩ := withRef_eq (s := s) r
      rw [hrefs] at hplaceholder ⊢
      cases hfind : s.events r.service r.event with
      | none => exact registered_of_none hs hfind
      | some q =>
        rw [(registered_of_some hs hfind).1] at hplaceholder
        exact absurd hplaceholder Bool.false_ne_true
    · have hptr := hs.owned.ne_pointer r hp hkey
      rw [objects_registerEvent_of_ne r hptr] at hplaceholder ⊢
      exact hs.placeholder hp hplaceholder

/-- Making a placeholder subscribes nobody. -/
lemma FieldTables.subscribes_registerEvent (hs : s.FieldTables) {r : EventRegistration}
    (hplaceholder : r.isCachePlaceholder = true) (hgroups : r.eventgroups ≠ [])
    (hevent : s.events r.service r.event = none ∨ r.event = anyEvent) :
    Subscribes s (s.registerEvent r) (fun _ => False) eventgroup client := by
  have hobject : (s.registerEvent r).objects (s.pointer r) = s.registered r := by
    rw [objects_registerEvent_pointer, withRef, if_pos hplaceholder]
  -- A field that is set and has the key of the registration was there before.
  have hold {k e p} (hkey : k = r.service ∧ e = r.event) (hp : s.events k e = some p) :
      s.pointer r = p ∧ (s.registered r).isSet = (s.objects p).isSet ∧
        ((s.objects p).isSet = true → (s.registered r).isField = (s.objects p).isField ∧
          (s.registered r).payload = (s.objects p).payload) := by
    obtain ⟨rfl, rfl⟩ := hkey
    exact ⟨by rw [pointer, hp]; rfl, (registered_of_some hs hp).2⟩
  refine ⟨fun k e p => ⟨fun h => ?_, fun h => ?_⟩, fun {k e p} h => ?_, fun {k e p} h g c => ?_⟩
  · have hp := h.registered
    rw [events_registerEvent] at hp
    split_ifs at hp with hkey
    · obtain rfl := Option.some.inj hp
      have hset := h.isSet
      have hfield := h.isField
      rw [hobject] at hset hfield
      cases hfind : s.events k e with
      | none =>
        obtain ⟨rfl, rfl⟩ := hkey
        rw [registered_of_none hs hfind] at hset
        exact absurd hset Bool.false_ne_true
      | some q =>
        obtain ⟨hptr, hset', hsame⟩ := hold hkey hfind
        rw [hset'] at hset
        rw [(hsame hset).1] at hfield
        rw [hptr]
        exact ⟨hfind, hfield, hset⟩
    · have hptr := hs.owned.ne_pointer r hp hkey
      refine ⟨hp, ?_, ?_⟩
      · rw [← objects_registerEvent_of_ne r hptr]
        exact h.isField
      · rw [← objects_registerEvent_of_ne r hptr]
        exact h.isSet
  · by_cases hkey : k = r.service ∧ e = r.event
    · obtain ⟨hptr, hset, hsame⟩ := hold hkey h.registered
      refine ⟨by rw [events_registerEvent, if_pos hkey, hptr], ?_, ?_⟩
      · rw [← hptr, hobject, (hsame h.isSet).1]
        exact h.isField
      · rw [← hptr, hobject, hset]
        exact h.isSet
    · have hptr := hs.owned.ne_pointer r h.registered hkey
      refine ⟨by rw [events_registerEvent, if_neg hkey, h.registered], ?_, ?_⟩
      · rw [objects_registerEvent_of_ne r hptr]
        exact h.isField
      · rw [objects_registerEvent_of_ne r hptr]
        exact h.isSet
  · by_cases hkey : k = r.service ∧ e = r.event
    · obtain ⟨hptr, -, hsame⟩ := hold hkey h.registered
      rw [← hptr, hobject, hptr, (hsame h.isSet).2]
    · rw [objects_registerEvent_of_ne r (hs.owned.ne_pointer r h.registered hkey)]
  · rw [false_and, or_false]
    by_cases hkey : k = r.service ∧ e = r.event
    · obtain ⟨rfl, rfl⟩ := hkey
      rw [getSubscribers_placeholder hplaceholder hgroups h.registered
        (hevent.resolve_left (by rw [h.registered]; simp))]
    · rw [objects_registerEvent_of_ne r (hs.owned.ne_pointer r h.registered hkey)]

/-- All events of an eventgroup get a subscriber. -/
lemma FieldTables.modifyAll (hs : s.FieldTables) (ps : Finset ℕ) (eventgroup client : UInt16) :
    (s.modifyAll ps fun ev => (ev.addSubscriber eventgroup client).1).FieldTables ∧
      Subscribes s (s.modifyAll ps fun ev => (ev.addSubscriber eventgroup client).1) (fun q => q ∈ ps)
        eventgroup client := by
  set s' := s.modifyAll ps fun ev => (ev.addSubscriber eventgroup client).1 with hs'
  have hobject (p : ℕ) : ∃ m, s'.objects p = { s.objects p with eventgroups := m } ∧
      ∀ g c, c ∈ m.getD g ∅ ↔
        c ∈ (s.objects p).getSubscribers g ∨ (p ∈ ps ∧ g = eventgroup ∧ c = client) := by
    simp only [hs', EventRegistry.modifyAll]
    split_ifs with hp
    · refine ⟨_, rfl, fun g c => ?_⟩
      rw [and_iff_right hp]
      exact Event.mem_getSubscribers_addSubscriber (s.objects p) eventgroup client g c
    · refine ⟨_, rfl, fun g c => ?_⟩
      rw [or_iff_left fun h => hp h.1]
      rfl
  refine ⟨⟨hs.owned.modifyAll fun _ => ⟨rfl, rfl⟩, fun {k g p} hp => ?_, fun {k e p} hp h => ?_⟩,
    ⟨fun k e p => ?_, fun {k e p} _ => ?_, fun {k e p} _ => ?_⟩⟩
  · obtain ⟨m, hm, -⟩ := hobject p
    rw [hm]
    exact hs.listed hp
  · obtain ⟨m, hm, -⟩ := hobject p
    rw [hm] at h ⊢
    exact hs.placeholder hp h
  · obtain ⟨m, hm, -⟩ := hobject p
    refine ⟨fun h => ⟨h.registered, ?_, ?_⟩, fun h => ⟨h.registered, ?_, ?_⟩⟩
    · have := h.isField
      rwa [hm] at this
    · have := h.isSet
      rwa [hm] at this
    · rw [hm]
      exact h.isField
    · rw [hm]
      exact h.isSet
  · obtain ⟨m, hm, -⟩ := hobject p
    rw [hm]
  · obtain ⟨m, hm, hsub⟩ := hobject p
    rw [hm]
    exact hsub

/-- Adding a subscriber to an event, as a change of one object. -/
lemma addSubscriber_eq {p : ℕ} (hp : s.events service event = some p) :
    s.addSubscriber service event eventgroup client =
      (s.modifyAll {p} fun ev => (ev.addSubscriber eventgroup client).1,
        decide (client ∉ (s.objects p).getSubscribers eventgroup)) := by
  rw [EventRegistry.addSubscriber, hp]
  simp only [EventRegistry.modifyAll, EventRegistry.write, Event.addSubscriber]
  congr 2
  funext q
  by_cases hq : q = p
  · simp [hq]
  · simp [hq]

/-- An event that is registered gets a subscriber. -/
lemma FieldTables.addSubscriber (hs : s.FieldTables) {p : ℕ} (hp : s.events service event = some p)
    (eventgroup client : UInt16) :
    (s.addSubscriber service event eventgroup client).1.FieldTables ∧
      Subscribes s (s.addSubscriber service event eventgroup client).1 (fun q => q ∈ ({p} : Finset ℕ))
        eventgroup client := by
  rw [addSubscriber_eq hp]
  exact hs.modifyAll {p} eventgroup client

/-- A client becomes a subscriber of some events, then of others. -/
lemma Subscribes.trans {s' s'' : EventRegistry} {P Q : ℕ → Prop}
    (h : Subscribes s s' P eventgroup client) (h' : Subscribes s' s'' Q eventgroup client) :
    Subscribes s s'' (fun p => P p ∨ Q p) eventgroup client where
  isField_iff k e p := (h'.isField_iff k e p).trans (h.isField_iff k e p)
  payload_eq hp := (h'.payload_eq ((h.isField_iff _ _ _).mpr hp)).trans (h.payload_eq hp)
  subscribers hp g c := by
    rw [h'.subscribers ((h.isField_iff _ _ _).mpr hp), h.subscribers hp]
    tauto

/-- Only the fields among the events matter. -/
lemma Subscribes.congr {s' : EventRegistry} {P Q : ℕ → Prop}
    (h : Subscribes s s' P eventgroup client) (hPQ : ∀ {k e p}, s.IsField k e p → (P p ↔ Q p)) :
    Subscribes s s' Q eventgroup client where
  isField_iff := h.isField_iff
  payload_eq := h.payload_eq
  subscribers hp g c := by rw [h.subscribers hp, hPQ hp]

section Insert

variable (debounce : List UInt8 → List UInt8 → Bool) (isShadow : Bool)

/-- The client is subscribed to a placeholder. If it is there already, it may be a field. -/
lemma FieldTables.createPlaceholder (hs : s.FieldTables) {a : SubscribeCall}
    (hevent : s.events a.service a.event = none ∨ a.event = anyEvent) :
    let result := s.createPlaceholderEventAndSubscribe (placeholderRegistration debounce isShadow
      a.client a.service a.event a.eventgroup) a.eventgroup a.client
    result.1.FieldTables ∧
      Subscribes s result.1 (fun p => s.events a.service a.event = some p) a.eventgroup a.client ∧
      (∀ p, s.IsField a.service a.event p →
        (result.2 = true ↔ a.client ∉ (s.objects p).getSubscribers a.eventgroup)) ∧
      ∀ p, p ∈ result.1.findEvents a.service a.eventgroup ↔
        result.1.events a.service a.event = some p ∨ p ∈ s.findEvents a.service a.eventgroup := by
  intro result
  set r := placeholderRegistration debounce isShadow a.client a.service a.event a.eventgroup with hr
  have hregistered : Subscribes s (s.registerEvent r) (fun _ => False) a.eventgroup a.client :=
    hs.subscribes_registerEvent rfl (List.cons_ne_nil _ _) hevent
  have hp : (s.registerEvent r).events a.service a.event = some (s.pointer r) := by
    rw [events_registerEvent]
    exact if_pos ⟨rfl, rfl⟩
  obtain ⟨htables, hsubscribes⟩ := (hs.registerEvent r).addSubscriber hp a.eventgroup a.client
  have hpointer {p : ℕ} (hp : s.events a.service a.event = some p) : s.pointer r = p := by
    rw [pointer]
    exact congrArg (Option.getD · s.next) hp
  refine ⟨htables, (hregistered.trans hsubscribes).congr fun {k e p} hfield => ?_, fun p hfield => ?_,
    fun p => ?_⟩
  · simp only [false_or, Finset.mem_singleton]
    refine ⟨fun h => ?_, fun h => (hpointer h).symm⟩
    cases hfind : s.events a.service a.event with
    | none =>
      refine absurd (hs.owned.lt_next hfield.registered) ?_
      rw [h, pointer]
      exact not_lt.mpr (congrArg (Option.getD · s.next) hfind).ge
    | some q => rw [h, hpointer hfind]
  · have hsame := hregistered.subscribers hfield a.eventgroup a.client
    rw [false_and, or_false] at hsame
    rw [← hsame, ← hpointer hfield.registered]
    simp only [result, createPlaceholderEventAndSubscribe]
    rw [show r.service = a.service from rfl, show r.event = a.event from rfl, addSubscriber_eq hp,
      decide_eq_true_iff]
  · simp only [result, createPlaceholderEventAndSubscribe]
    rw [show r.service = a.service from rfl, show r.event = a.event from rfl, addSubscriber_eq hp]
    change p ∈ (s.registerEvent r).findEvents a.service a.eventgroup ↔
      (s.registerEvent r).events a.service a.event = some p ∨ _
    rw [mem_findEvents_registerEvent, hp, Option.some.injEq, eq_comm (a := p)]
    simp [hr, placeholderRegistration]

/-- The client is subscribed to a single event. -/
lemma FieldTables.insertSubscription_single (hs : s.FieldTables) {a : SubscribeCall}
    (hsingle : s.IsSingle a) :
    let result := s.insertSubscription debounce isShadow a.service a.eventgroup a.event a.client
    result.1.FieldTables ∧
      Subscribes s result.1 (fun p => s.events a.service a.event = some p) a.eventgroup a.client ∧
      (∀ p, s.IsField a.service a.event p →
        (result.2 = true ↔ a.client ∉ (s.objects p).getSubscribers a.eventgroup)) ∧
      (a.event = anyEvent → ∀ p, p ∈ result.1.findEvents a.service a.eventgroup ↔
        result.1.events a.service a.event = some p) := by
  intro result
  by_cases hevent : s.events a.service a.event = none ∨ a.event = anyEvent
  · have hresult : result = s.createPlaceholderEventAndSubscribe (placeholderRegistration debounce
        isShadow a.client a.service a.event a.eventgroup) a.eventgroup a.client := by
      simp only [result, insertSubscription]
      by_cases hany : a.event = anyEvent
      · have hempty := hsingle.resolve_left (not_not.mpr hany)
        rw [if_neg (not_not.mpr hany), if_pos (Finset.card_eq_zero.mpr hempty)]
      · rw [if_pos hany, hevent.resolve_right hany]
        rfl
    obtain ⟨htables, hsubscribes, hinserted, hlisted⟩ := hs.createPlaceholder debounce isShadow hevent
    rw [hresult]
    refine ⟨htables, hsubscribes, hinserted, fun hany p => (hlisted p).trans (or_iff_left ?_)⟩
    rw [hsingle.resolve_left (not_not.mpr hany)]
    exact Finset.notMem_empty p
  · obtain ⟨hsome, hany⟩ := not_or.mp hevent
    obtain ⟨p, hp⟩ := Option.ne_none_iff_exists'.mp hsome
    have hresult : result = s.addSubscriber a.service a.event a.eventgroup a.client := by
      simp only [result, insertSubscription]
      rw [if_pos hany, hp]
      rfl
    obtain ⟨htables, hsubscribes⟩ := hs.addSubscriber hp a.eventgroup a.client
    rw [hresult]
    refine ⟨htables, hsubscribes.congr fun {k e q} _ => ?_, fun q hfield => ?_, fun h => absurd h hany⟩
    · rw [hp, Finset.mem_singleton, Option.some.injEq, eq_comm]
    · rw [addSubscriber_eq hfield.registered, decide_eq_true_iff]

/-- The client is subscribed to the events of an eventgroup. -/
lemma FieldTables.insertSubscription_group (hs : s.FieldTables) {a : SubscribeCall}
    (hgroup : ¬ s.IsSingle a) :
    let result := s.insertSubscription debounce isShadow a.service a.eventgroup a.event a.client
    result.1.FieldTables ∧
      Subscribes s result.1 (fun p => p ∈ s.findEvents a.service a.eventgroup) a.eventgroup a.client ∧
      (∀ k g, result.1.findEvents k g = s.findEvents k g) ∧
      (result.2 = true ↔ ∃ p ∈ s.findEvents a.service a.eventgroup,
        a.client ∉ (s.objects p).getSubscribers a.eventgroup) := by
  intro result
  obtain ⟨hany, hfound⟩ := not_or.mp hgroup
  have hresult : result = (s.modifyAll (s.findEvents a.service a.eventgroup) fun ev =>
      (ev.addSubscriber a.eventgroup a.client).1, decide (∃ p ∈ s.findEvents a.service a.eventgroup,
        ((s.objects p).addSubscriber a.eventgroup a.client).2 = true)) := by
    simp only [result, insertSubscription, if_neg hany, Finset.card_eq_zero, if_neg hfound]
  obtain ⟨htables, hsubscribes⟩ := hs.modifyAll (s.findEvents a.service a.eventgroup)
    a.eventgroup a.client
  rw [hresult]
  refine ⟨htables, hsubscribes, fun _ _ => rfl, ?_⟩
  simp [Event.addSubscriber]

end Insert

/-! ## What is sent -/

/-- In a list without repetitions only one element matters. -/
lemma filter_flatMap_eq {α β : Type} [DecidableEq α] {l : List α} {f : α → List β} {P : β → Bool} {a : α}
    (hnodup : l.Nodup) (hother : ∀ b ∈ l, b ≠ a → (f b).filter P = []) :
    (l.flatMap f).filter P = if a ∈ l then (f a).filter P else [] := by
  induction l with
  | nil => rfl
  | cons b l ih =>
    obtain ⟨hb, hnodup⟩ := List.nodup_cons.mp hnodup
    have hrest := ih hnodup fun b' hb' => hother b' (List.mem_cons_of_mem b hb')
    rw [List.flatMap_cons, List.filter_append, hrest]
    by_cases hba : b = a
    · subst hba
      rw [if_neg hb, if_pos List.mem_cons_self, List.append_nil]
    · rw [hother b List.mem_cons_self hba, List.nil_append]
      simp only [List.mem_cons, Ne.symm hba, false_or]

/-- What is sent of a registered event says nothing about other events. -/
lemma FieldTables.logFor_notifyOne (hs : s.FieldTables) {k k' : ServiceKey} {e e' : UInt16} {p q : ℕ}
    (hp : s.IsField k e p) (hq : s.events k' e' = some q) (client c : UInt16) :
    NotifyOne.logFor ((s.objects q).notifyOne client) c k e =
      if client = c ∧ q = p then [⟨c, k, e, (s.objects p).payload⟩] else [] := by
  rw [Event.logFor_notifyOne]
  by_cases hqp : q = p
  · obtain ⟨hservice, hevent⟩ := hs.owned.key hp.registered
    subst hqp
    simp [hp.isSet, hservice, hevent]
  · rw [if_neg, if_neg fun h => hqp h.2]
    rintro ⟨-, -, hservice, hevent⟩
    obtain ⟨rfl, rfl⟩ := hs.owned.key hq
    rw [hservice, hevent, hp.registered] at hq
    exact hqp (Option.some.inj hq).symm

/-- The value of a field that is sent to a client. -/
lemma FieldTables.logFor_notifyOneCurrentValue (hs : s.FieldTables) {k : ServiceKey} {e : UInt16}
    {p : ℕ} (hp : s.IsField k e p) (service : ServiceKey) (eventgroup event client c : UInt16)
    (excluded : Finset UInt16) :
    NotifyOne.logFor (s.notifyOneCurrentValue service eventgroup event client excluded) c k e =
      if client = c ∧ (if event ≠ anyEvent then s.events service event = some p
          else p ∈ s.findEvents service eventgroup ∧ e ∉ excluded) then
        [⟨c, k, e, (s.objects p).payload⟩]
      else [] := by
  obtain ⟨hservice, hevent⟩ := hs.owned.key hp.registered
  rw [notifyOneCurrentValue]
  split
  next hany =>
    rw [findEvent]
    cases hfind : s.events service event with
    | none => simp [NotifyOne.logFor]
    | some q =>
      simp only [Option.map_some, Option.some.injEq]
      cases hfield : (s.objects q).isField with
      | true => exact hs.logFor_notifyOne hp hfind client c
      | false =>
        have hqp : ¬ (client = c ∧ q = p) := by
          rintro ⟨-, rfl⟩
          rw [hp.isField] at hfield
          cases hfield
        rw [if_neg hqp]
        rfl
  next hany =>
    have hregistered {q : ℕ} (hq : q ∈ (s.findEvents service eventgroup).sort (· ≤ ·)) :
        s.events service (s.objects q).event = some q := by
      rw [Finset.mem_sort] at hq
      exact hs.listed hq
    rw [NotifyOne.logFor, filter_flatMap_eq (a := p) (Finset.sort_nodup _ _) fun q hq hqp => ?_]
    · simp only [Finset.mem_sort, hp.isField, hevent, true_and]
      have hvalue := hs.logFor_notifyOne hp hp.registered client c
      simp only [NotifyOne.logFor, and_true] at hvalue
      by_cases hlisted : p ∈ s.findEvents service eventgroup
      · by_cases hexcluded : e ∈ excluded
        · simp [hexcluded]
        · simp only [hlisted, hexcluded, not_false_eq_true, if_true, hvalue, and_true]
      · simp [hlisted]
    · split_ifs
      · exact (hs.logFor_notifyOne hp (hregistered hq) client c).trans (if_neg fun h => hqp h.2)
      · rfl

end EventRegistry

/-! ## Calls -/

namespace InitialEvents

variable (debounce : List UInt8 → List UInt8 → Bool) (isShadow : ServiceKey → Bool) {s : InitialEvents}
  {a : SubscribeCall}

/-- A call keeps the tables, and the client is subscribed to the events that it covers. -/
lemma registry_subscribe (hs : s.registry.FieldTables) (a : SubscribeCall) :
    (s.subscribe debounce isShadow a).registry.FieldTables ∧
      EventRegistry.Subscribes s.registry (s.subscribe debounce isShadow a).registry
        (s.registry.Covers a) a.eventgroup a.client := by
  by_cases hsingle : s.registry.IsSingle a
  · obtain ⟨htables, hsubscribes, -⟩ :=
      hs.insertSubscription_single debounce (isShadow a.service) hsingle
    exact ⟨htables, hsubscribes.congr fun {k e p} _ => by simp [EventRegistry.Covers, hsingle]⟩
  · obtain ⟨htables, hsubscribes, -⟩ :=
      hs.insertSubscription_group debounce (isShadow a.service) hsingle
    exact ⟨htables, hsubscribes.congr fun {k e p} _ => by simp [EventRegistry.Covers, hsingle]⟩

/-- Whether a client is subscribed to a registered event, by its object. -/
lemma isSubscribedEvent_iff {r : EventRegistry} {k : ServiceKey} {e c : UInt16} {p : ℕ}
    (hp : r.events k e = some p) : r.IsSubscribedEvent k e c ↔ (r.objects p).isSubscribed c = true := by
  rw [Event.isSubscribed_iff]
  simp [EventRegistry.IsSubscribedEvent, hp]

/-- A field is noted as one to which the client was subscribed before, if it is one. -/
lemma mem_alreadySubscribedEvents_iff (hs : s.registry.FieldTables)
    (hgroup : ¬ s.registry.IsSingle a) {k : ServiceKey} {e : UInt16} {p : ℕ}
    (hp : s.registry.IsField k e p) (hlisted : p ∈ s.registry.findEvents a.service a.eventgroup) :
    e ∈ s.registry.alreadySubscribedEvents a.service a.eventgroup a.event a.client ↔
      s.registry.IsSubscribedEvent k e a.client := by
  obtain ⟨hany, -⟩ := not_or.mp hgroup
  obtain ⟨-, hevent⟩ := hs.owned.key hp.registered
  rw [EventRegistry.alreadySubscribedEvents, if_neg hany, isSubscribedEvent_iff hp.registered]
  simp only [Finset.mem_image, Finset.mem_filter]
  constructor
  · rintro ⟨q, ⟨hq, hsubscribed⟩, hqe⟩
    have hqp : q = p := by
      have hregistered := hs.listed hq
      have hregistered' := hs.listed hlisted
      rw [hqe] at hregistered
      rw [hevent, hregistered] at hregistered'
      exact Option.some.inj hregistered'
    rwa [← hqp]
  · exact fun hsubscribed => ⟨p, ⟨hlisted, hsubscribed⟩, hevent⟩

/-- A call sends the value of a field: it covers the field, and the client is not subscribed to it; or
it subscribes to one event, and the client is new to the eventgroup. -/
def Sends (s : InitialEvents) (a : SubscribeCall) (service : ServiceKey) (event : UInt16) (p : ℕ) : Prop :=
  s.registry.Covers a p ∧ (s.registry.IsSubscribedEvent service event a.client →
    s.registry.IsSingle a ∧ a.client ∉ (s.registry.objects p).getSubscribers a.eventgroup)

/-- An object is registered under one key only. -/
lemma events_eq_some_iff {r : EventRegistry} (hr : r.Owned) {k k' : ServiceKey} {e e' : UInt16} {p : ℕ}
    (hp : r.events k e = some p) : r.events k' e' = some p ↔ k' = k ∧ e' = e := by
  constructor
  · exact fun hp' => hr.inj hp' hp
  · rintro ⟨rfl, rfl⟩
    exact hp

/-- A call that covers a field sends its value if somebody is inserted and the field is not excluded. -/
lemma sends_iff (hs : s.registry.FieldTables) (a : SubscribeCall) {k : ServiceKey} {e : UInt16} {p : ℕ}
    (hp : s.registry.IsField k e p) :
    let result := s.registry.insertSubscription debounce (isShadow a.service) a.service a.eventgroup
      a.event a.client
    s.Sends a k e p ↔ result.2 = true ∧
      (if a.event ≠ anyEvent then result.1.events a.service a.event = some p
        else p ∈ result.1.findEvents a.service a.eventgroup ∧
          e ∉ s.registry.alreadySubscribedEvents a.service a.eventgroup a.event a.client) := by
  intro result
  by_cases hsingle : s.registry.IsSingle a
  · obtain ⟨htables, hsubscribes, hinserted, hlisted⟩ :=
      hs.insertSubscription_single debounce (isShadow a.service) hsingle
    have hevents : result.1.events a.service a.event = some p ↔
        s.registry.events a.service a.event = some p := by
      rw [events_eq_some_iff htables.owned ((hsubscribes.isField_iff k e p).mpr hp).registered,
        events_eq_some_iff hs.owned hp.registered]
    have hcondition : (if a.event ≠ anyEvent then result.1.events a.service a.event = some p
        else p ∈ result.1.findEvents a.service a.eventgroup ∧
          e ∉ s.registry.alreadySubscribedEvents a.service a.eventgroup a.event a.client) ↔
        s.registry.events a.service a.event = some p := by
      split
      next => exact hevents
      next hany =>
        rw [not_not] at hany
        rw [hlisted hany p, hevents, EventRegistry.alreadySubscribedEvents,
          hsingle.resolve_left (not_not.mpr hany)]
        simp
    rw [hcondition, Sends, EventRegistry.Covers, and_comm (a := result.2 = true)]
    simp only [hsingle, true_and, not_true_eq_false, false_and, or_false]
    refine and_congr_right fun hcovered => ?_
    have hkey := (events_eq_some_iff hs.owned hp.registered).mp hcovered
    rw [← hkey.1, ← hkey.2] at hp ⊢
    rw [hinserted p hp]
    constructor
    · intro h hmem
      exact h ⟨p, a.eventgroup, hp.registered, hmem⟩ hmem
    · exact fun h _ => h
  · obtain ⟨-, -, hlisted, hinserted⟩ :=
      hs.insertSubscription_group debounce (isShadow a.service) hsingle
    obtain ⟨hany, -⟩ := not_or.mp hsingle
    rw [if_neg hany, hlisted, hinserted, Sends, EventRegistry.Covers]
    simp only [hsingle, not_false_eq_true, true_and, false_and, false_or, imp_false]
    constructor
    · rintro ⟨hmem, hnew⟩
      refine ⟨⟨p, hmem, fun hsub => hnew ⟨p, a.eventgroup, hp.registered, hsub⟩⟩, hmem, ?_⟩
      rwa [mem_alreadySubscribedEvents_iff hs hsingle hp hmem]
    · rintro ⟨-, hmem, hnew⟩
      rw [mem_alreadySubscribedEvents_iff hs hsingle hp hmem] at hnew
      exact ⟨hmem, hnew⟩

/-- What a call sends of a field. -/
lemma logFor_subscribe (hs : s.registry.FieldTables) (a : SubscribeCall) {k : ServiceKey} {e : UInt16}
    {p : ℕ} (hp : s.registry.IsField k e p) (c : UInt16) :
    let s' := s.subscribe debounce isShadow a
    (a.client = c ∧ s.Sends a k e p → NotifyOne.logFor s'.sent c k e =
      NotifyOne.logFor s.sent c k e ++ [⟨c, k, e, (s.registry.objects p).payload⟩]) ∧
    (¬ (a.client = c ∧ s.Sends a k e p) →
      NotifyOne.logFor s'.sent c k e = NotifyOne.logFor s.sent c k e) := by
  intro s'
  obtain ⟨htables, hsubscribes⟩ := registry_subscribe debounce isShadow hs a
  have hvalue := htables.logFor_notifyOneCurrentValue ((hsubscribes.isField_iff k e p).mpr hp)
    a.service a.eventgroup a.event a.client c (s.registry.alreadySubscribedEvents a.service a.eventgroup
      a.event a.client)
  rw [hsubscribes.payload_eq hp] at hvalue
  have hsends := sends_iff debounce isShadow hs a hp
  dsimp only at hsends
  rw [hsends]
  simp only [s', subscribe] at hvalue ⊢
  cases hinserted : (s.registry.insertSubscription debounce (isShadow a.service) a.service
    a.eventgroup a.event a.client).2 with
  | true =>
    simp only [if_true, true_and]
    rw [NotifyOne.logFor, List.filter_append]
    refine ⟨fun h => congrArg (NotifyOne.logFor s.sent c k e ++ ·) (hvalue.trans (if_pos h)),
      fun h => ?_⟩
    exact (congrArg (NotifyOne.logFor s.sent c k e ++ ·) (hvalue.trans (if_neg h))).trans
      (List.append_nil _)
  | false => simp

/-- Who is subscribed to a field after a call. -/
lemma isSubscribedEvent_subscribe_iff (hs : s.registry.FieldTables) (a : SubscribeCall) {k : ServiceKey}
    {e : UInt16} {p : ℕ} (hp : s.registry.IsField k e p) (c : UInt16) :
    (s.subscribe debounce isShadow a).registry.IsSubscribedEvent k e c ↔
      s.registry.IsSubscribedEvent k e c ∨ (s.registry.Covers a p ∧ c = a.client) := by
  obtain ⟨-, hsubscribes⟩ := registry_subscribe debounce isShadow hs a
  have hp' := (hsubscribes.isField_iff k e p).mpr hp
  simp only [EventRegistry.IsSubscribedEvent, hp.registered, hp'.registered, Option.some.injEq,
    exists_and_left, exists_eq_left', hsubscribes.subscribers hp]
  constructor
  · rintro ⟨g, hmem | ⟨hcovers, -, hc⟩⟩
    · exact Or.inl ⟨g, hmem⟩
    · exact Or.inr ⟨hcovers, hc⟩
  · rintro (⟨g, hmem⟩ | ⟨hcovers, hc⟩)
    · exact ⟨g, Or.inl hmem⟩
    · exact ⟨a.eventgroup, Or.inr ⟨hcovers, rfl, hc⟩⟩

/-- The invariant of a run. -/
structure Inv (s : InitialEvents) : Prop where
  tables : s.registry.FieldTables
  sentOnce : s.SentOnce

/-- The values are sent once exactly if the call is a fresh one.

**Proof sketch.** What a call sends of a field is known. A client that is not subscribed has got
nothing, and it gets the value if the call covers the field. A client that is subscribed has got the
value, and it gets it again exactly if the call is not a fresh one. -/
lemma Inv.sentOnce_subscribe_iff (hs : s.Inv) (a : SubscribeCall) :
    (s.subscribe debounce isShadow a).SentOnce ↔ s.Fresh a := by
  obtain ⟨-, hsubscribes⟩ := registry_subscribe debounce isShadow hs.tables a
  constructor
  · intro hsent hsingle p hp hsubscribed
    by_contra hnew
    have hcovers : s.registry.Covers a p := Or.inl ⟨hsingle, hp.registered⟩
    have htwice := (logFor_subscribe debounce isShadow hs.tables a hp a.client).1
      ⟨rfl, hcovers, fun _ => ⟨hsingle, hnew⟩⟩
    have honce := (hsent a.client a.service a.event p ((hsubscribes.isField_iff _ _ _).mpr hp)).1
      ((isSubscribedEvent_subscribe_iff debounce isShadow hs.tables a hp a.client).mpr
        (Or.inl hsubscribed))
    rw [htwice, (hs.sentOnce a.client a.service a.event p hp).1 hsubscribed] at honce
    exact absurd (congrArg List.length honce) (by simp)
  · intro hfresh c k e p hp'
    have hp := (hsubscribes.isField_iff k e p).mp hp'
    obtain ⟨hsends, hkeeps⟩ := logFor_subscribe debounce isShadow hs.tables a hp c
    obtain ⟨hsubscribed, hnot⟩ := hs.sentOnce c k e p hp
    rw [isSubscribedEvent_subscribe_iff debounce isShadow hs.tables a hp, hsubscribes.payload_eq hp]
    by_cases hold : s.registry.IsSubscribedEvent k e c
    · refine ⟨fun _ => ?_, fun h => absurd (Or.inl hold) h⟩
      rw [hkeeps, hsubscribed hold]
      rintro ⟨rfl, hcovers, hsecond⟩
      obtain ⟨hsingle, hnew⟩ := hsecond hold
      have hkey := hcovers.resolve_right fun h => h.1 hsingle
      obtain ⟨hservice, hevent⟩ := (events_eq_some_iff hs.tables.owned hp.registered).mp hkey.2
      rw [← hservice, ← hevent] at hp hold
      exact hnew (hfresh hsingle p hp hold)
    · rw [or_iff_right hold]
      constructor
      · rintro ⟨hcovers, hc⟩
        rw [hsends ⟨hc.symm, hcovers, fun h => absurd (hc ▸ h) hold⟩, hnot hold]
        rfl
      · intro h
        rw [hkeeps fun hsent => h ⟨hsent.2.1, hsent.1.symm⟩, hnot hold]

/-- What holds of tables that are made by registrations: there is no placeholder, and nobody is
subscribed. -/
structure Registered (s : EventRegistry) : Prop where
  tables : s.FieldTables
  unsubscribed : s.Unsubscribed
  noPlaceholder : ∀ {k e p}, s.events k e = some p → (s.objects p).isCachePlaceholder = false

/-- A registration keeps tables that are made by registrations. -/
lemma Registered.registerEvent {s : EventRegistry} (hs : Registered s) {r : EventRegistration}
    (hr : r.isCachePlaceholder = false) : Registered (s.registerEvent r) where
  tables := hs.tables.registerEvent r
  unsubscribed := hs.unsubscribed.registerEvent hs.tables.owned r
  noPlaceholder := fun {k e p} hp => by
    rw [EventRegistry.events_registerEvent] at hp
    split_ifs at hp with hkey
    · obtain rfl := Option.some.inj hp
      obtain ⟨refs, hrefs⟩ := EventRegistry.withRef_eq (s := s) r
      rw [EventRegistry.objects_registerEvent_pointer, hrefs]
      cases hfind : s.events r.service r.event with
      | none =>
        obtain ⟨m, hm, -⟩ := hs.tables.owned.registered_of_none r hfind
        obtain ⟨m', hm', -⟩ := r.create_eq
        rw [hm, hm']
        exact hr
      | some q => exact (EventRegistry.registered_of_some hs.tables hfind).1
    · rw [EventRegistry.objects_registerEvent_of_ne r (hs.tables.owned.ne_pointer r hp hkey)]
      exact hs.noPlaceholder hp

/-- Registrations one after the other make such tables. -/
lemma registered_foldl (rs : List EventRegistration) {s : EventRegistry} (hs : Registered s) :
    Registered (rs.foldl (fun (s : EventRegistry) r =>
      s.registerEvent { r with isCachePlaceholder := false }) s) := by
  induction rs generalizing s with
  | nil => exact hs
  | cons r rs ih => exact ih (hs.registerEvent rfl)

/-- Empty tables are made by no registration. -/
lemma registered_empty : Registered .empty where
  tables := ⟨EventRegistry.owned_empty, fun h => absurd h (Finset.notMem_empty _), fun h => by cases h⟩
  unsubscribed := fun _ _ => rfl
  noPlaceholder := fun h => by cases h

/-- The registrations make such tables, and setting values keeps them. -/
lemma inv_init (rs : List EventRegistration) (values : ℕ → Option (List UInt8)) :
    (init rs values).Inv := by
  have hs := registered_foldl rs registered_empty
  have hobject (p : ℕ) : ∃ payload isSet, (init rs values).registry.objects p =
      { (rs.foldl (fun (s : EventRegistry) r => s.registerEvent { r with isCachePlaceholder := false })
        EventRegistry.empty).objects p with payload := payload, isSet := isSet } := by
    simp only [init]
    cases values p with
    | none => exact ⟨_, _, rfl⟩
    | some payload => exact ⟨payload, true, rfl⟩
  refine ⟨⟨⟨hs.tables.owned.lt_next, fun {k e p} hp => ?_, hs.tables.owned.listed_lt,
    fun {k g p} hp => ?_⟩, fun {k g p} hp => ?_, fun {k e p} hp hplaceholder => ?_⟩,
    fun c k e p _ => ⟨fun hsubscribed => ?_, fun _ => rfl⟩⟩
  · obtain ⟨payload, isSet, hobject⟩ := hobject p
    rw [hobject]
    exact hs.tables.owned.key hp
  · obtain ⟨payload, isSet, hobject⟩ := hobject p
    rw [hobject]
    exact hs.tables.owned.listed_service hp
  · obtain ⟨payload, isSet, hobject⟩ := hobject p
    rw [hobject]
    exact hs.tables.listed hp
  · obtain ⟨payload, isSet, hobject⟩ := hobject p
    rw [hobject] at hplaceholder
    exact absurd (hplaceholder.symm.trans (hs.noPlaceholder hp)) Bool.noConfusion
  · obtain ⟨q, g, -, hmem⟩ := hsubscribed
    obtain ⟨payload, isSet, hobject⟩ := hobject q
    rw [hobject] at hmem
    exact absurd hmem (hs.unsubscribed q g ▸ Finset.notMem_empty c)

/-- **In every run of calls, each value is sent once to each subscriber, exactly if no call subscribes
to a single field to which the client is subscribed through another eventgroup only.** -/
theorem sentOnce_along_iff (debounce : List UInt8 → List UInt8 → Bool) (isShadow : ServiceKey → Bool)
    (rs : List EventRegistration) (values : ℕ → Option (List UInt8)) (calls : List SubscribeCall) :
    Runs.Along (subscribe debounce isShadow) (fun s a => (s.subscribe debounce isShadow a).SentOnce)
        (init rs values) calls ↔
      Runs.Along (subscribe debounce isShadow) Fresh (init rs values) calls := by
  refine Runs.along_iff (I := Inv) (E := fun _ _ => True) (fun {s a} hs _ hfresh => ?_)
    (fun {s a} hs _ hfresh => ?_) (inv_init rs values) (Runs.along_of_forall fun _ _ => trivial)
  · have hsent := (hs.sentOnce_subscribe_iff debounce isShadow a).mpr hfresh
    exact ⟨⟨(registry_subscribe debounce isShadow hs.tables a).1, hsent⟩, hsent⟩
  · exact fun hsent => hfresh ((hs.sentOnce_subscribe_iff debounce isShadow a).mp hsent)

/-- A field in two eventgroups. -/
def sharedField : EventRegistration where
  client := 0x0001
  service := (0x1111, 0x2222)
  event := 0x8001
  eventgroups := [0x0001, 0x0002]
  isField := true
  epsilonChange := none
  debounce := fun _ _ => true
  isProvided := true
  isShadow := false
  isCachePlaceholder := false

/-- A client subscribes to the field through the first eventgroup and then through the second one. -/
theorem not_sentOnce_sharedField : ¬ ∀ debounce isShadow rs values calls,
    Runs.Along (subscribe debounce isShadow) (fun s a => (s.subscribe debounce isShadow a).SentOnce)
      (init rs values) calls := by
  intro h
  have hrun := h (fun _ _ => true) (fun _ => false) [sharedField] (fun _ => some [0x2A])
    [⟨0x0100, (0x1111, 0x2222), 0x0001, 0x8001⟩, ⟨0x0100, (0x1111, 0x2222), 0x0002, 0x8001⟩]
  have hlog := (hrun.2.1 0x0100 (0x1111, 0x2222) 0x8001 0 ⟨by decide, by decide, by decide⟩).1
    ⟨0, 0x0001, by decide, by decide⟩
  exact absurd hlog (by decide)

end InitialEvents

end Vsomeip
