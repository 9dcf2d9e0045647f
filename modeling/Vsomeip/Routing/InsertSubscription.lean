import Vsomeip.Routing.EventConsistency

set_option relaxedAutoImplicit false
set_option autoImplicit false

/-!
# Subscribers of events

`routing_manager_base::insert_subscription` makes a client a subscriber of one event, or of all
events that an eventgroup lists (`ANY_EVENT`). If there is none, it registers a placeholder that
holds the subscription until the event is requested or offered. `routing_manager_impl::unsubscribe`
removes a client from the events that the eventgroup lists.

The placeholder is a field that is registered by nobody. The log of the source and the set of the
events to which the client was subscribed before, which only the sending of current values uses, are
left out.

## Main definitions

* `Vsomeip.EventRegistry.insertSubscription` — the function of the source.
* `Vsomeip.EventRegistry.removeSubscription`, `Vsomeip.EventRegistry.lastSubscriberRemoved` — the
  two loops of `unsubscribe`.
* `Vsomeip.EventRegistry.IsSubscribed` — a client is subscribed to an eventgroup.

## Main results

* `Vsomeip.EventRegistry.Owned.isSubscribed_insertSubscription` — the client is subscribed, and
  nothing changes for others.
* `Vsomeip.EventRegistry.Owned.isSubscribed_removeSubscription` — what is left after the first loop.
-/

namespace Vsomeip

open Std (TreeMap)

namespace EventRegistry

/-- The registration of a placeholder in `create_placeholder_event_and_subscribe`. It is a shadow
event if the service is not one of the host itself. The client with which it is registered depends on
who hosts the service, but a placeholder takes no reference and nothing reads it. -/
def placeholderRegistration (debounce : List UInt8 → List UInt8 → Bool) (isShadow : Bool)
    (client : UInt16) (service : ServiceKey) (event eventgroup : UInt16) : EventRegistration where
  client := client
  service := service
  event := event
  eventgroups := [eventgroup]
  isField := true
  epsilonChange := none
  debounce := debounce
  isProvided := false
  isShadow := isShadow
  isCachePlaceholder := true

/-- The objects behind some pointers change. -/
def modifyAll (s : EventRegistry) (ps : Finset ℕ) (f : Event → Event) : EventRegistry :=
  { s with objects := fun p => if p ∈ ps then f (s.objects p) else s.objects p }

/-- Add a subscriber to an event that is in `events_`. -/
def addSubscriber (s : EventRegistry) (service : ServiceKey) (event eventgroup client : UInt16) :
    EventRegistry × Bool :=
  match s.events service event with
  | some p =>
    let (ev, inserted) := (s.objects p).addSubscriber eventgroup client
    (s.write p ev, inserted)
  | none => (s, false)

/-- `create_placeholder_event_and_subscribe`, for a service instance that is known. For an unknown one
`routing_manager_impl` makes no placeholder, and the client gets no subscription. -/
def createPlaceholderEventAndSubscribe (s : EventRegistry) (r : EventRegistration)
    (eventgroup client : UInt16) : EventRegistry × Bool :=
  (s.registerEvent r).addSubscriber r.service r.event eventgroup client

/-- `insert_subscription`. -/
def insertSubscription (s : EventRegistry) (debounce : List UInt8 → List UInt8 → Bool)
    (isShadow : Bool) (service : ServiceKey) (eventgroup event client : UInt16) :
    EventRegistry × Bool :=
  let r := placeholderRegistration debounce isShadow client service event eventgroup
  if event ≠ anyEvent then
    if (s.events service event).isSome then s.addSubscriber service event eventgroup client
    else s.createPlaceholderEventAndSubscribe r eventgroup client
  else
    let events := s.findEvents service eventgroup
    if events.card = 0 then s.createPlaceholderEventAndSubscribe r eventgroup client
    else
      (s.modifyAll events fun ev => (ev.addSubscriber eventgroup client).1,
        decide (∃ p ∈ events, ((s.objects p).addSubscriber eventgroup client).2 = true))

/-- The first loop of `unsubscribe`: the client is removed from an event of the eventgroup, or from
all of them. -/
def removeSubscription (s : EventRegistry) (service : ServiceKey) (eventgroup event client : UInt16) :
    EventRegistry :=
  s.modifyAll
    ((s.findEvents service eventgroup).filter fun p =>
      (s.objects p).event = event ∨ anyEvent = event)
    fun ev => ev.removeSubscriber eventgroup client

/-- The second loop of `unsubscribe`: no event of the eventgroup has a subscriber. -/
def lastSubscriberRemoved (s : EventRegistry) (service : ServiceKey) (eventgroup : UInt16) : Bool :=
  decide (∀ p ∈ s.findEvents service eventgroup, (s.objects p).getSubscribers eventgroup = ∅)

/-- `unset_all_eventpayloads` of an eventgroup. -/
def unsetAllEventpayloads (s : EventRegistry) (service : ServiceKey) (eventgroup : UInt16) :
    EventRegistry :=
  s.modifyAll (s.findEvents service eventgroup) Event.unsetPayload

/-! ## Subscribed clients -/

/-- An event of a service instance that an eventgroup may have subscribers on: it is registered, or
the eventgroup lists it. -/
def IsEventOf (s : EventRegistry) (service : ServiceKey) (eventgroup : UInt16) (p : ℕ) : Prop :=
  (∃ e, s.events service e = some p) ∨ p ∈ s.findEvents service eventgroup

/-- A client is subscribed to an eventgroup, through one of its events. -/
def IsSubscribed (s : EventRegistry) (service : ServiceKey) (eventgroup client : UInt16) : Prop :=
  ∃ p, s.IsEventOf service eventgroup p ∧ client ∈ (s.objects p).getSubscribers eventgroup

/-- No event has a subscriber. -/
def Unsubscribed (s : EventRegistry) : Prop :=
  ∀ p g, (s.objects p).getSubscribers g = ∅

end EventRegistry

/-! ## Lemmas on one event -/

namespace Event

variable (ev : Event) (eventgroup client : UInt16)

/-- The subscribers after one is added: the eventgroup has one more, the others keep theirs. -/
lemma getSubscribers_addSubscriber (g : UInt16) :
    (ev.addSubscriber eventgroup client).1.getSubscribers g =
      if g = eventgroup then insert client (ev.getSubscribers g) else ev.getSubscribers g := by
  rw [addSubscriber, getSubscribers, getD_insert]
  split_ifs with h
  · rw [h]
  · rfl

/-- Who is a subscriber after one is added. -/
lemma mem_getSubscribers_addSubscriber (g c : UInt16) :
    c ∈ (ev.addSubscriber eventgroup client).1.getSubscribers g ↔
      c ∈ ev.getSubscribers g ∨ (g = eventgroup ∧ c = client) := by
  rw [getSubscribers_addSubscriber]
  split_ifs with h
  · rw [Finset.mem_insert]
    tauto
  · tauto

/-- Who is a subscriber after one is removed. -/
lemma mem_getSubscribers_removeSubscriber (g c : UInt16) :
    c ∈ (ev.removeSubscriber eventgroup client).getSubscribers g ↔
      c ∈ ev.getSubscribers g ∧ ¬ (g = eventgroup ∧ c = client) := by
  unfold removeSubscriber
  by_cases h : ev.eventgroups.contains eventgroup
  · rw [if_pos h, getSubscribers, getD_insert]
    split_ifs with hg
    · rw [Finset.mem_erase, hg]
      tauto
    · have hsame : ev.eventgroups.getD g ∅ = ev.getSubscribers g := rfl
      rw [hsame]
      tauto
  · rw [if_neg h]
    refine (and_iff_left_of_imp fun hc => ?_).symm
    rintro ⟨rfl, -⟩
    rw [getSubscribers, TreeMap.getD_eq_fallback fun hm => h (TreeMap.contains_iff_mem.mpr hm)] at hc
    exact Finset.notMem_empty c hc

end Event

/-! ## Lemmas on the tables -/

namespace EventRegistry

variable {s s' : EventRegistry} {service : ServiceKey} {eventgroup event client : UInt16}

/-- An event of a service instance belongs to that service instance. -/
lemma Owned.service_eq (hs : s.Owned) {k : ServiceKey} {g : UInt16} {p : ℕ}
    (hp : s.IsEventOf k g p) : (s.objects p).service = k := by
  obtain ⟨e, he⟩ | hlisted := hp
  · exact (hs.key he).1
  · exact hs.listed_service hlisted

/-- An event of a service instance is an object that exists. -/
lemma Owned.isEventOf_lt (hs : s.Owned) {k : ServiceKey} {g : UInt16} {p : ℕ}
    (hp : s.IsEventOf k g p) : p < s.next := by
  obtain ⟨e, he⟩ | hlisted := hp
  · exact hs.lt_next he
  · exact hs.listed_lt hlisted

/-- Some events of the eventgroup get a new subscriber, at least one of them, and nothing else
changes. -/
lemma Owned.isSubscribed_of_added (hs : s.Owned) {P : ℕ → Prop} (hevents : s'.events = s.events)
    (hgroups : s'.eventgroups = s.eventgroups) (hP : ∀ p, P p → s.IsEventOf service eventgroup p)
    (hex : ∃ p, P p)
    (hobjects : ∀ q g c, c ∈ (s'.objects q).getSubscribers g ↔
      c ∈ (s.objects q).getSubscribers g ∨ (P q ∧ g = eventgroup ∧ c = client))
    (k : ServiceKey) (g c : UInt16) : s'.IsSubscribed k g c ↔
      s.IsSubscribed k g c ∨ (k = service ∧ g = eventgroup ∧ c = client) := by
  have hof : ∀ k g q, s'.IsEventOf k g q ↔ s.IsEventOf k g q := by
    intro k g q
    simp only [IsEventOf, findEvents, hevents, hgroups]
  constructor
  · rintro ⟨q, hq, hc⟩
    rw [hof] at hq
    obtain hold | ⟨hPq, rfl, rfl⟩ := (hobjects q g c).mp hc
    · exact .inl ⟨q, hq, hold⟩
    · exact .inr ⟨(hs.service_eq hq).symm.trans (hs.service_eq (hP q hPq)), rfl, rfl⟩
  · rintro (⟨q, hq, hc⟩ | ⟨rfl, rfl, rfl⟩)
    · exact ⟨q, (hof k g q).mpr hq, (hobjects q g c).mpr (.inl hc)⟩
    · obtain ⟨p, hp⟩ := hex
      exact ⟨p, (hof k g p).mpr (hP p hp), (hobjects p g c).mpr (.inr ⟨hp, rfl, rfl⟩)⟩

/-- Adding a subscriber to a registered event subscribes the client, and nobody else. -/
lemma Owned.isSubscribed_addSubscriber (hs : s.Owned) {p : ℕ}
    (hp : s.events service event = some p) (k : ServiceKey) (g c : UInt16) :
    (s.addSubscriber service event eventgroup client).1.IsSubscribed k g c ↔
      s.IsSubscribed k g c ∨ (k = service ∧ g = eventgroup ∧ c = client) := by
  have heq : (s.addSubscriber service event eventgroup client).1 =
      s.write p ((s.objects p).addSubscriber eventgroup client).1 := by
    rw [addSubscriber, hp]
  rw [heq]
  refine hs.isSubscribed_of_added (by rfl) (by rfl) (fun q (hq : q = p) => .inl ⟨event, hq ▸ hp⟩)
    ⟨p, rfl⟩ (fun q g c => ?_) k g c
  by_cases hq : q = p
  · subst hq
    simp only [EventRegistry.write, Function.update_self, Event.mem_getSubscribers_addSubscriber,
      true_and]
  · simp only [EventRegistry.write, Function.update_of_ne hq, hq, false_and, or_false]

/-- If no subscriber is inserted, the client is subscribed already. -/
lemma inserted_addSubscriber {p : ℕ} (hp : s.events service event = some p)
    (h : (s.addSubscriber service event eventgroup client).2 = false) :
    s.IsSubscribed service eventgroup client := by
  rw [addSubscriber, hp] at h
  refine ⟨p, .inl ⟨event, hp⟩, ?_⟩
  simpa [Event.addSubscriber] using h

/-! ### Placeholders -/

/-- A registration adds the object it fills to the events of its service instance. -/
lemma isEventOf_registerEvent (r : EventRegistration) (k : ServiceKey) (g : UInt16) (q : ℕ) :
    (s.registerEvent r).IsEventOf k g q ↔
      s.IsEventOf k g q ∨ (k = r.service ∧ q = s.pointer r) := by
  simp only [IsEventOf, events_registerEvent, mem_findEvents_registerEvent]
  constructor
  · rintro (⟨e, he⟩ | ⟨rfl, -, rfl⟩ | hlisted)
    · split_ifs at he with h
      · exact .inr ⟨h.1, (Option.some.inj he).symm⟩
      · exact .inl (.inl ⟨e, he⟩)
    · exact .inr ⟨rfl, rfl⟩
    · exact .inl (.inr hlisted)
  · rintro ((⟨e, he⟩ | hlisted) | ⟨rfl, rfl⟩)
    · by_cases h : k = r.service ∧ e = r.event
      · obtain ⟨rfl, rfl⟩ := h
        refine .inl ⟨r.event, ?_⟩
        rw [if_pos ⟨rfl, rfl⟩, pointer, he]
        rfl
      · exact .inl ⟨e, by rw [if_neg h]; exact he⟩
    · exact .inr (.inr hlisted)
    · exact .inl ⟨r.event, if_pos ⟨rfl, rfl⟩⟩

section Placeholder

variable {r : EventRegistration} (hplaceholder : r.isCachePlaceholder = true)
  (hprovided : r.isProvided = false) (hgroups : r.eventgroups ≠ [])

include hplaceholder

include hgroups in
/-- A placeholder for `ANY_EVENT` on an event that exists keeps its subscribers. -/
lemma getSubscribers_placeholder {p : ℕ} (hp : s.events r.service r.event = some p)
    (hany : r.event = anyEvent) (g : UInt16) :
    ((s.registerEvent r).objects p).getSubscribers g = (s.objects p).getSubscribers g := by
  have hptr : s.pointer r = p := by rw [pointer, hp]; rfl
  have hobject : (s.registerEvent r).objects p = s.registered r := by
    rw [← hptr, objects_registerEvent_pointer, withRef, if_pos hplaceholder]
  rw [hobject]
  cases hold : (s.objects p).isCachePlaceholder with
  | true =>
    obtain ⟨m, hm, -, hsub⟩ := r.fill_eq (s.objects p)
    rw [registered_of_placeholder r hp hold, hm]
    exact (hsub g).trans (if_neg fun h => hgroups h.1)
  | false =>
    by_cases hfield : (s.objects p).isField = r.isField
    · obtain ⟨m, hm, -, hsub⟩ := registered_of_isField_eq r hp hold hfield
      have hself : s.anySubscribers r.service g = (s.objects p).getSubscribers g := by
        rw [anySubscribers, findEvent, ← hany, hp]
        rfl
      rw [hm]
      refine (hsub g).trans ?_
      rw [hself]
      split_ifs
      · exact Finset.union_self _
      · exact Finset.union_empty _
    · rw [registered_of_isField_ne r hp hold hfield]

include hprovided

/-- A new placeholder has no subscribers. -/
lemma Owned.getSubscribers_new (hs : s.Owned) (hp : s.events r.service r.event = none) (g : UInt16) :
    ((s.registerEvent r).objects (s.pointer r)).getSubscribers g = ∅ := by
  obtain ⟨m, hm, -, hsub⟩ := hs.registered_of_none r hp
  rw [objects_registerEvent_pointer, withRef, if_pos hplaceholder, hm]
  refine (hsub g).trans (if_neg fun h => ?_)
  rw [hprovided] at h
  exact absurd h.1 (by decide)

include hgroups

/-- Making a placeholder subscribes nobody. -/
lemma Owned.isSubscribed_registerEvent (hs : s.Owned)
    (hevent : s.events r.service r.event = none ∨ r.event = anyEvent) (k : ServiceKey)
    (g c : UInt16) : (s.registerEvent r).IsSubscribed k g c ↔ s.IsSubscribed k g c := by
  have hold : ∀ q, s.IsEventOf k g q →
      ((s.registerEvent r).objects q).getSubscribers g = (s.objects q).getSubscribers g := by
    intro q hq
    by_cases hptr : q = s.pointer r
    · cases hp : s.events r.service r.event with
      | none =>
        rw [pointer, hp, Option.getD_none] at hptr
        exact absurd hptr (Nat.ne_of_lt (hs.isEventOf_lt hq))
      | some p =>
        have hany : r.event = anyEvent := hevent.resolve_left (by rw [hp]; simp)
        rw [pointer, hp, Option.getD_some] at hptr
        rw [hptr]
        exact getSubscribers_placeholder hplaceholder hgroups hp hany g
    · rw [objects_registerEvent_of_ne r hptr]
  constructor
  · rintro ⟨q, hq, hc⟩
    by_cases hqs : s.IsEventOf k g q
    · rw [hold q hqs] at hc
      exact ⟨q, hqs, hc⟩
    · obtain ⟨rfl, rfl⟩ := ((isEventOf_registerEvent r k g q).mp hq).resolve_left hqs
      cases hp : s.events r.service r.event with
      | none =>
        rw [hs.getSubscribers_new hplaceholder hprovided hp] at hc
        exact absurd hc (Finset.notMem_empty c)
      | some p =>
        refine absurd (.inl ⟨r.event, ?_⟩) hqs
        rw [pointer, hp]
        rfl
  · rintro ⟨q, hq, hc⟩
    rw [← hold q hq] at hc
    exact ⟨q, (isEventOf_registerEvent r k g q).mpr (.inl hq), hc⟩

end Placeholder

/-! ### Subscriptions -/

section Insert

variable (debounce : List UInt8 → List UInt8 → Bool) (isShadow : Bool)

/-- A subscription through a placeholder: the client is subscribed, nobody else is, and a refusal
means that it was subscribed already. -/
lemma Owned.createPlaceholder_spec (hs : s.Owned)
    (hevent : s.events service event = none ∨ event = anyEvent) :
    let result := s.createPlaceholderEventAndSubscribe
      (placeholderRegistration debounce isShadow client service event eventgroup) eventgroup client
    (∀ k g c, result.1.IsSubscribed k g c ↔
      s.IsSubscribed k g c ∨ (k = service ∧ g = eventgroup ∧ c = client)) ∧
    (result.2 = false → s.IsSubscribed service eventgroup client) := by
  intro result
  have hnew := hs.registerEvent
    (placeholderRegistration debounce isShadow client service event eventgroup)
  have hp : (s.registerEvent
      (placeholderRegistration debounce isShadow client service event eventgroup)).events
        service event = some (s.pointer
          (placeholderRegistration debounce isShadow client service event eventgroup)) := by
    rw [events_registerEvent]
    exact if_pos ⟨rfl, rfl⟩
  have hsame := fun k g c => @Owned.isSubscribed_registerEvent s
    (placeholderRegistration debounce isShadow client service event eventgroup) rfl rfl
    (List.cons_ne_nil eventgroup []) hs hevent k g c
  constructor
  · intro k g c
    rw [← hsame]
    exact hnew.isSubscribed_addSubscriber hp k g c
  · intro hresult
    rw [← hsame]
    exact inserted_addSubscriber hp hresult

/-- What `insert_subscription` does, whether the event is there, a placeholder is made or the whole
eventgroup is meant. -/
lemma Owned.insertSubscription_spec (hs : s.Owned) :
    let result := s.insertSubscription debounce isShadow service eventgroup event client
    (∀ k g c, result.1.IsSubscribed k g c ↔
      s.IsSubscribed k g c ∨ (k = service ∧ g = eventgroup ∧ c = client)) ∧
    (result.2 = false → s.IsSubscribed service eventgroup client) := by
  unfold insertSubscription
  by_cases hany : event = anyEvent
  · simp only [hany, ne_eq, not_true_eq_false, if_false]
    by_cases hcard : (s.findEvents service eventgroup).card = 0
    · rw [if_pos hcard]
      exact hs.createPlaceholder_spec debounce isShadow (.inr rfl)
    · rw [if_neg hcard]
      obtain ⟨p, hp⟩ := Finset.card_ne_zero.mp hcard
      refine ⟨hs.isSubscribed_of_added (by rfl) (by rfl) (fun q hq => .inr hq) ⟨p, hp⟩
        fun q g c => ?_, fun h => ⟨p, .inr hp, ?_⟩⟩
      · simp only [modifyAll]
        split_ifs with hq
        · rw [Event.mem_getSubscribers_addSubscriber]
          simp only [hq, true_and]
        · simp only [hq, false_and, or_false]
      · by_contra hnot
        refine (of_decide_eq_false h) ⟨p, hp, ?_⟩
        rw [Event.addSubscriber]
        exact decide_eq_true hnot
  · simp only [hany, ne_eq, not_false_eq_true, if_true]
    cases hp : s.events service event with
    | none =>
      simp only [Option.isSome_none, Bool.false_eq_true, if_false]
      exact hs.createPlaceholder_spec debounce isShadow (.inl hp)
    | some p =>
      simp only [Option.isSome_some, if_true]
      exact ⟨hs.isSubscribed_addSubscriber hp, inserted_addSubscriber hp⟩

end Insert

/-! ### Objects keep their keys -/

/-- A change of objects that keeps their keys keeps the ownership. -/
lemma Owned.modifyAll (hs : s.Owned) {ps : Finset ℕ} {f : Event → Event}
    (hf : ∀ ev, (f ev).service = ev.service ∧ (f ev).event = ev.event) :
    (s.modifyAll ps f).Owned := by
  refine hs.withObjects fun q => ?_
  split_ifs
  · exact hf (s.objects q)
  · exact ⟨rfl, rfl⟩

/-- Adding a subscriber keeps the ownership. -/
lemma Owned.addSubscriber (hs : s.Owned) (service : ServiceKey) (event eventgroup client : UInt16) :
    (s.addSubscriber service event eventgroup client).1.Owned := by
  unfold EventRegistry.addSubscriber
  split
  · exact hs.write ⟨rfl, rfl⟩
  · exact hs

/-- A subscription keeps the ownership. -/
lemma Owned.insertSubscription (hs : s.Owned) (debounce : List UInt8 → List UInt8 → Bool)
    (isShadow : Bool) (service : ServiceKey) (eventgroup event client : UInt16) :
    (s.insertSubscription debounce isShadow service eventgroup event client).1.Owned := by
  unfold EventRegistry.insertSubscription
  dsimp only
  split_ifs
  · exact hs.addSubscriber service event eventgroup client
  · exact (hs.registerEvent _).addSubscriber service event eventgroup client
  · exact (hs.registerEvent _).addSubscriber service event eventgroup client
  · show (s.modifyAll _ fun ev => (ev.addSubscriber eventgroup client).1).Owned
    exact hs.modifyAll fun _ => ⟨rfl, rfl⟩

/-- The first loop of `unsubscribe` keeps the ownership. -/
lemma Owned.removeSubscription (hs : s.Owned) (service : ServiceKey)
    (eventgroup event client : UInt16) :
    (s.removeSubscription service eventgroup event client).Owned := by
  refine hs.modifyAll fun ev => ?_
  unfold Event.removeSubscriber
  split_ifs <;> exact ⟨rfl, rfl⟩

/-- Forgetting the payloads keeps the ownership. -/
lemma Owned.unsetAllEventpayloads (hs : s.Owned) (service : ServiceKey) (eventgroup : UInt16) :
    (s.unsetAllEventpayloads service eventgroup).Owned :=
  hs.modifyAll fun _ => ⟨rfl, rfl⟩

/-! ### Removals -/

/-- A client stays a subscriber of an event when one unsubscribes: it is another one, or the
eventgroup does not list the event, or the event is not the one that is unsubscribed. -/
def Keeps (s : EventRegistry) (service : ServiceKey) (eventgroup event client : UInt16) (p : ℕ)
    (c : UInt16) : Prop :=
  c ∈ (s.objects p).getSubscribers eventgroup ∧
    ¬ (c = client ∧ p ∈ s.findEvents service eventgroup ∧
      ((s.objects p).event = event ∨ anyEvent = event))

/-- Who is a subscriber of an object after the first loop of `unsubscribe`. -/
lemma mem_getSubscribers_removeSubscription (q : ℕ) (g c : UInt16) :
    c ∈ ((s.removeSubscription service eventgroup event client).objects q).getSubscribers g ↔
      c ∈ (s.objects q).getSubscribers g ∧
        ¬ (g = eventgroup ∧ c = client ∧ q ∈ s.findEvents service eventgroup ∧
          ((s.objects q).event = event ∨ anyEvent = event)) := by
  simp only [removeSubscription, EventRegistry.modifyAll, Finset.mem_filter]
  split_ifs with hq
  · rw [Event.mem_getSubscribers_removeSubscriber]
    tauto
  · tauto

/-- The first loop of `unsubscribe` keeps the tables. -/
lemma isEventOf_removeSubscription (k : ServiceKey) (g : UInt16) (q : ℕ) :
    (s.removeSubscription service eventgroup event client).IsEventOf k g q ↔ s.IsEventOf k g q :=
  Iff.rfl

/-- Other eventgroups are not affected. -/
lemma Owned.isSubscribed_removeSubscription_of_ne (hs : s.Owned) {k : ServiceKey} {g : UInt16}
    (hne : ¬ (k = service ∧ g = eventgroup)) (c : UInt16) :
    (s.removeSubscription service eventgroup event client).IsSubscribed k g c ↔
      s.IsSubscribed k g c := by
  refine exists_congr fun q => and_congr_right fun hq => ?_
  rw [mem_getSubscribers_removeSubscription]
  refine and_iff_left fun h => hne ⟨?_, h.1⟩
  rw [isEventOf_removeSubscription] at hq
  exact (hs.service_eq hq).symm.trans (hs.listed_service h.2.2.1)

/-- Who is subscribed to the eventgroup after the first loop of `unsubscribe`. -/
lemma isSubscribed_removeSubscription (c : UInt16) :
    (s.removeSubscription service eventgroup event client).IsSubscribed service eventgroup c ↔
      ∃ p, s.IsEventOf service eventgroup p ∧ s.Keeps service eventgroup event client p c := by
  refine exists_congr fun q => and_congr Iff.rfl ?_
  rw [mem_getSubscribers_removeSubscription, Keeps]
  simp only [true_and]

/-- The second loop of `unsubscribe` finds nobody exactly if nobody stays a subscriber of a listed
event. -/
lemma lastSubscriberRemoved_removeSubscription :
    (s.removeSubscription service eventgroup event client).lastSubscriberRemoved service eventgroup =
      true ↔
    ¬ ∃ c, ∃ p ∈ s.findEvents service eventgroup, s.Keeps service eventgroup event client p c := by
  rw [lastSubscriberRemoved, decide_eq_true_iff]
  simp only [Finset.eq_empty_iff_forall_notMem, mem_getSubscribers_removeSubscription, true_and,
    Keeps, not_exists]
  exact ⟨fun h c p hp => h p hp.1 c hp.2, fun h p hp c hc => h c p ⟨hp, hc⟩⟩

/-- Forgetting the payloads unsubscribes nobody. -/
lemma isSubscribed_unsetAllEventpayloads (k : ServiceKey) (g c : UInt16) :
    (s.unsetAllEventpayloads service eventgroup).IsSubscribed k g c ↔ s.IsSubscribed k g c := by
  refine exists_congr fun q => and_congr Iff.rfl ?_
  simp only [unsetAllEventpayloads, EventRegistry.modifyAll]
  split_ifs <;> rfl

/-! ### Registrations without subscribers -/

/-- A registration on tables without subscribers makes none. -/
lemma Unsubscribed.registerEvent (h : s.Unsubscribed) (hs : s.Owned) (r : EventRegistration) :
    (s.registerEvent r).Unsubscribed := by
  have hany : ∀ g, s.anySubscribers r.service g = ∅ := by
    intro g
    rw [anySubscribers, findEvent]
    cases s.events r.service anyEvent with
    | none => rfl
    | some p => exact h p g
  have hregistered : ∀ g, (s.registered r).getSubscribers g = ∅ := by
    intro g
    cases hp : s.events r.service r.event with
    | none =>
      obtain ⟨m, hm, -, hsub⟩ := hs.registered_of_none r hp
      rw [hm]
      refine (hsub g).trans ?_
      rw [hany, ite_self]
    | some p =>
      cases hplaceholder : (s.objects p).isCachePlaceholder with
      | true =>
        obtain ⟨m, hm, -, hsub⟩ := r.fill_eq (s.objects p)
        rw [registered_of_placeholder r hp hplaceholder, hm]
        refine (hsub g).trans ?_
        rw [h p g, ite_self]
      | false =>
        by_cases hfield : (s.objects p).isField = r.isField
        · obtain ⟨m, hm, -, hsub⟩ := registered_of_isField_eq r hp hplaceholder hfield
          rw [hm]
          refine (hsub g).trans ?_
          rw [h p g, hany, ite_self, Finset.union_empty]
        · rw [registered_of_isField_ne r hp hplaceholder hfield]
          exact h p g
  intro q g
  by_cases hq : q = s.pointer r
  · rw [hq, objects_registerEvent_pointer, withRef]
    split_ifs <;> exact hregistered g
  · rw [objects_registerEvent_of_ne r hq]
    exact h q g

/-- The end of a registration on tables without subscribers makes none. -/
lemma Unsubscribed.unregisterEvent (h : s.Unsubscribed) (client : UInt16) (service : ServiceKey)
    (event : UInt16) (isProvided : Bool) :
    (s.unregisterEvent client service event isProvided).Unsubscribed := by
  have hremove : ∀ p g, ((s.objects p).removeRef client isProvided).getSubscribers g = ∅ := by
    intro p g
    obtain ⟨refs, hrefs⟩ := EventLedger.removeRef_eq (s.objects p) client isProvided
    rw [hrefs]
    exact h p g
  have hwrite : ∀ {p ev}, (∀ g, ev.getSubscribers g = ∅) → (s.write p ev).Unsubscribed := by
    intro p ev hev q g
    simp only [write]
    by_cases hq : q = p
    · rw [hq, Function.update_self]
      exact hev g
    · rw [Function.update_of_ne hq]
      exact h q g
  cases hp : s.events service event with
  | none =>
    rw [EventRegistry.unregisterEvent, hp]
    exact h
  | some p =>
    cases href : ((s.objects p).removeRef client isProvided).hasRef with
    | true =>
      rw [unregisterEvent_of_hasRef s client service event isProvided hp href]
      refine hwrite fun g => ?_
      split_ifs
      · exact hremove p g
      · exact hremove p g
    | false =>
      obtain ⟨f, hf, -⟩ := unregisterEvent_of_last s client service event isProvided hp href
      rw [hf]
      exact hwrite (hremove p)

end EventRegistry

/-- In every run of registrations the objects are owned and have no subscribers. -/
lemma EventLedger.owned_unsubscribed_run (rs : List RegistryAction) :
    (Runs.run step init rs).registry.Owned ∧ (Runs.run step init rs).registry.Unsubscribed := by
  refine @Runs.inv_run _ _ step (fun s => s.registry.Owned ∧ s.registry.Unsubscribed)
    (fun _ => True) (fun {s a} hs _ => ?_) rs _ ⟨EventRegistry.owned_empty, fun _ _ => rfl⟩
    fun _ _ => trivial
  cases a with
  | register r => exact ⟨hs.1.registerEvent r, hs.2.registerEvent hs.1 r⟩
  | unregister client service event isProvided =>
    exact ⟨hs.1.unregisterEvent client service event isProvided,
      hs.2.unregisterEvent client service event isProvided⟩

end Vsomeip
