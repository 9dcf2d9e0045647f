import Mathlib.Data.List.AList
import Mathlib.Data.Finset.Card
import Mathlib.Data.Finset.Sort
import Vsomeip.Lib.Runs

set_option relaxedAutoImplicit false
set_option autoImplicit false

/-!
# Events and eventgroups of the routing manager

`routing_manager_base` keeps the events of all service instances in `events_`, and in `eventgroups_`
the events that belong to an eventgroup. An event (`event.cpp`) itself knows its eventgroups, with
the clients that have subscribed to it through each of them, and the clients that have registered it.
Events are shared objects: both tables hold pointers to them, so that an event is compared by its
pointer and what happens to it is seen through either table. The objects are in a heap here, and a
pointer is the number of an object.

The tables are used only by key and are functions, and the pairs of a service and an instance are
one key. Of an event, its cycle, its version and its reliability are left out.

## Main definitions

* `Vsomeip.Event` — an event with its eventgroups and its references.
* `Vsomeip.EventRegistry` — `events_`, `eventgroups_` and the objects.
* `Vsomeip.EventRegistry.registerEvent`, `Vsomeip.EventRegistry.unregisterEvent` — the operations of
  the source.

## Main results

* `Vsomeip.EventRegistry.Owned.registerEvent`, `Vsomeip.EventRegistry.Owned.unregisterEvent` — every
  pointer of the tables belongs to the service instance under which it is found.
* `Vsomeip.EventRegistry.mem_eventgroups_registerEvent`,
  `Vsomeip.EventRegistry.listed_registerEvent`, `Vsomeip.EventRegistry.listed_unregisterEvent` — the
  eventgroups of an event and the events of an eventgroup after an operation.
-/

namespace Vsomeip

open Std (TreeMap)

/-- `ANY_EVENT`, which a placeholder event has as its id. -/
def anyEvent : UInt16 := 0xFFFF

/-- A service and an instance. -/
abbrev ServiceKey : Type := UInt16 × UInt16

/-! ## Events -/

/-- `event`. -/
structure Event where
  service : ServiceKey
  event : UInt16
  isField : Bool
  isProvided : Bool
  isCachePlaceholder : Bool
  payload : List UInt8
  isSet : Bool
  epsilonChange : List UInt8 → List UInt8 → Bool
  eventgroups : TreeMap UInt16 (Finset UInt16)
  refs : AList fun _ : UInt16 × Bool => UInt32

namespace Event

/-- The constructor of `event`, with the service, the instance and the event that are set first.
The payloads of a field are compared by `event::compare`. -/
def new (service : ServiceKey) (event : UInt16) : Event where
  service := service
  event := event
  isField := false
  isProvided := false
  isCachePlaceholder := false
  payload := []
  isSet := false
  epsilonChange := fun old new => old ≠ new
  eventgroups := ∅
  refs := ∅

/-- `event::add_eventgroup`. -/
def addEventgroup (ev : Event) (eventgroup : UInt16) : Event :=
  if ev.eventgroups.contains eventgroup then ev
  else { ev with eventgroups := ev.eventgroups.insert eventgroup ∅ }

/-- `event::set_eventgroups`, which adds eventgroups and forgets the subscribers of those it names. -/
def setEventgroups (ev : Event) (eventgroups : List UInt16) : Event :=
  { ev with eventgroups := eventgroups.foldl (fun m eg => m.insert eg ∅) ev.eventgroups }

/-- `event::get_subscribers` for an eventgroup. -/
def getSubscribers (ev : Event) (eventgroup : UInt16) : Finset UInt16 :=
  ev.eventgroups.getD eventgroup ∅

/-- `event::get_subscribers`, in the order of a `std::set`. -/
def allSubscribers (ev : Event) : List UInt16 :=
  (ev.eventgroups.values.foldl (· ∪ ·) ∅ : Finset UInt16).sort (· ≤ ·)

/-- `event::add_subscriber`, and whether the client was not a subscriber before. -/
def addSubscriber (ev : Event) (eventgroup client : UInt16) : Event × Bool :=
  ({ ev with eventgroups :=
      ev.eventgroups.insert eventgroup (insert client (ev.getSubscribers eventgroup)) },
    client ∉ ev.getSubscribers eventgroup)

/-- `event::remove_subscriber`. -/
def removeSubscriber (ev : Event) (eventgroup client : UInt16) : Event :=
  if ev.eventgroups.contains eventgroup then
    { ev with eventgroups :=
        ev.eventgroups.insert eventgroup ((ev.getSubscribers eventgroup).erase client) }
  else ev

/-- `event::unset_payload` with `_force`. -/
def unsetPayload (ev : Event) : Event :=
  { ev with isSet := false, payload := [] }

/-- `event::add_ref`. The maps of the source are one map from a client and a flag to a counter. -/
def addRef (ev : Event) (client : UInt16) (isProvided : Bool) : Event :=
  let count := (ev.refs.lookup (client, isProvided)).getD 0
  { ev with refs := ev.refs.insert (client, isProvided) (count + 1) }

/-- `event::remove_ref`. -/
def removeRef (ev : Event) (client : UInt16) (isProvided : Bool) : Event :=
  match ev.refs.lookup (client, isProvided) with
  | none => ev
  | some n =>
    if n - 1 = 0 then { ev with refs := ev.refs.erase (client, isProvided) }
    else { ev with refs := ev.refs.insert (client, isProvided) (n - 1) }

/-- `event::has_ref`. -/
def hasRef (ev : Event) : Bool :=
  ev.refs.keys.length ≠ 0

/-- Every subscriber of another event through one of the eventgroups becomes one of this event. The
other event is the placeholder with `ANY_EVENT`. -/
def transferSubscriptions (ev any : Event) (eventgroups : List UInt16) : Event :=
  eventgroups.foldl (fun ev eg =>
    if any.getSubscribers eg = ∅ then ev
    else
      { ev with eventgroups :=
          ev.eventgroups.insert eg (ev.getSubscribers eg ∪ any.getSubscribers eg) }) ev

end Event

/-! ## Lemmas on events -/

namespace Event

variable (ev : Event) (eventgroup : UInt16)

/-- The eventgroups after one is entered. -/
lemma mem_eventgroups_insert (m : TreeMap UInt16 (Finset UInt16)) (eg : UInt16) (v : Finset UInt16)
    {g : UInt16} : g ∈ m.insert eg v ↔ g = eg ∨ g ∈ m := by
  rw [TreeMap.mem_insert, Std.LawfulEqOrd.compare_eq_iff_eq, eq_comm]

/-- The subscribers of the eventgroups after one is entered. -/
lemma getD_insert (m : TreeMap UInt16 (Finset UInt16)) (eg : UInt16) (v : Finset UInt16)
    (g : UInt16) : (m.insert eg v).getD g ∅ = if g = eg then v else m.getD g ∅ := by
  rw [TreeMap.getD_insert]
  by_cases h : g = eg
  · rw [if_pos h, if_pos (Std.LawfulEqOrd.compare_eq_iff_eq.mpr h.symm)]
  · rw [if_neg h, if_neg fun h' => h (Std.LawfulEqOrd.compare_eq_iff_eq.mp h').symm]

/-- The eventgroups of an event change, and nothing else. -/
lemma addEventgroup_eq : ∃ m, ev.addEventgroup eventgroup = { ev with eventgroups := m } ∧
    (∀ g, g ∈ m ↔ g = eventgroup ∨ g ∈ ev.eventgroups) ∧
    ∀ g, m.getD g ∅ = ev.getSubscribers g := by
  unfold addEventgroup
  by_cases h : ev.eventgroups.contains eventgroup
  · refine ⟨ev.eventgroups, if_pos h, fun g => ⟨Or.inr, ?_⟩, fun _ => rfl⟩
    rintro (rfl | hg)
    · exact TreeMap.contains_iff_mem.mp h
    · exact hg
  · refine ⟨ev.eventgroups.insert eventgroup ∅, if_neg h,
      fun g => mem_eventgroups_insert ev.eventgroups eventgroup ∅, fun g => ?_⟩
    rw [getD_insert, getSubscribers]
    split_ifs with hg
    · subst hg
      exact (TreeMap.getD_eq_fallback fun hmem => h (TreeMap.contains_iff_mem.mpr hmem)).symm
    · rfl

/-- A loop that adds eventgroups. -/
lemma foldl_addEventgroup_eq (egs : List UInt16) : ∀ ev : Event,
    ∃ m, egs.foldl addEventgroup ev = { ev with eventgroups := m } ∧
      (∀ g, g ∈ m ↔ g ∈ egs ∨ g ∈ ev.eventgroups) ∧ ∀ g, m.getD g ∅ = ev.getSubscribers g := by
  induction egs with
  | nil => exact fun ev => ⟨ev.eventgroups, rfl, fun g => by simp, fun _ => rfl⟩
  | cons eg egs ih =>
    intro ev
    obtain ⟨m, hm, hmem, hsub⟩ := ev.addEventgroup_eq eg
    obtain ⟨m', hm', hmem', hsub'⟩ := ih (ev.addEventgroup eg)
    rw [hm] at hm' hmem' hsub'
    refine ⟨m', by rw [List.foldl_cons, hm, hm'], fun g => ?_, fun g => ?_⟩
    · rw [hmem', hmem, List.mem_cons]
      tauto
    · rw [hsub']
      exact hsub g

/-- The eventgroups of an event after some are set. -/
lemma mem_setEventgroups (egs : List UInt16) {g : UInt16} :
    g ∈ (ev.setEventgroups egs).eventgroups ↔ g ∈ egs ∨ g ∈ ev.eventgroups := by
  have hfold : ∀ (egs : List UInt16) (m : TreeMap UInt16 (Finset UInt16)),
      g ∈ egs.foldl (fun m eg => m.insert eg ∅) m ↔ g ∈ egs ∨ g ∈ m := by
    intro egs
    induction egs with
    | nil => simp
    | cons eg egs ih =>
      intro m
      rw [List.foldl_cons, ih, mem_eventgroups_insert, List.mem_cons]
      tauto
  exact hfold egs ev.eventgroups

/-- The subscribers after eventgroups are set: these have none. -/
lemma getSubscribers_setEventgroups (egs : List UInt16) (g : UInt16) :
    (ev.setEventgroups egs).getSubscribers g = if g ∈ egs then ∅ else ev.getSubscribers g := by
  have hfold : ∀ (egs : List UInt16) (m : TreeMap UInt16 (Finset UInt16)),
      (egs.foldl (fun m eg => m.insert eg ∅) m).getD g ∅ = if g ∈ egs then ∅ else m.getD g ∅ := by
    intro egs
    induction egs with
    | nil => simp
    | cons eg egs ih =>
      intro m
      rw [List.foldl_cons, ih, getD_insert]
      by_cases hg : g = eg <;> simp [List.mem_cons, hg]
  exact hfold egs ev.eventgroups

/-- The transfer of subscriptions adds no eventgroup if the event has all that are named. -/
lemma transferSubscriptions_eq (any : Event) (egs : List UInt16) : ∀ ev : Event,
    (∀ g ∈ egs, g ∈ ev.eventgroups) →
    ∃ m, ev.transferSubscriptions any egs = { ev with eventgroups := m } ∧
      (∀ g, g ∈ m ↔ g ∈ ev.eventgroups) ∧
      ∀ g, m.getD g ∅ = ev.getSubscribers g ∪ if g ∈ egs then any.getSubscribers g else ∅ := by
  induction egs with
  | nil => exact fun ev _ => ⟨ev.eventgroups, rfl, fun _ => Iff.rfl, fun g => by
      simp [getSubscribers]⟩
  | cons eg egs ih =>
    intro ev hmem
    obtain ⟨heg, hegs⟩ := List.forall_mem_cons.mp hmem
    by_cases hsub : any.getSubscribers eg = ∅
    · obtain ⟨m, hm, hmm, hms⟩ := ih ev hegs
      refine ⟨m, ?_, hmm, fun g => ?_⟩
      · rw [transferSubscriptions, List.foldl_cons, if_pos hsub]
        exact hm
      · rw [hms]
        by_cases hg : g = eg
        · subst hg
          simp [hsub]
        · simp [List.mem_cons, hg]
    · let subscribers := ev.getSubscribers eg ∪ any.getSubscribers eg
      obtain ⟨m, hm, hmm, hms⟩ := ih { ev with eventgroups := ev.eventgroups.insert eg subscribers }
        fun g hg => (mem_eventgroups_insert ..).mpr (.inr (hegs g hg))
      refine ⟨m, ?_, fun g => ?_, fun g => ?_⟩
      · rw [transferSubscriptions, List.foldl_cons, if_neg hsub]
        exact hm
      · rw [hmm, mem_eventgroups_insert]
        constructor
        · rintro (rfl | hg)
          · exact heg
          · exact hg
        · exact Or.inr
      · rw [hms]
        simp only [getSubscribers, getD_insert, List.mem_cons]
        by_cases hg : g = eg
        · subst hg
          simp only [if_true, true_or, subscribers, getSubscribers]
          split_ifs
          · rw [Finset.union_assoc, Finset.union_self]
          · rw [Finset.union_empty]
        · simp only [hg, if_false, false_or]

/-- An event keeps its key when a reference is removed. -/
lemma key_removeRef (client : UInt16) (isProvided : Bool) :
    (ev.removeRef client isProvided).service = ev.service ∧
      (ev.removeRef client isProvided).event = ev.event := by
  unfold removeRef
  split
  · exact ⟨rfl, rfl⟩
  · split_ifs <;> exact ⟨rfl, rfl⟩

end Event

/-! ## The tables -/

/-- `events_` and `eventgroups_`, with the objects that have been made. -/
structure EventRegistry where
  objects : ℕ → Event
  next : ℕ
  events : ServiceKey → UInt16 → Option ℕ
  eventgroups : ServiceKey → UInt16 → Option (Finset ℕ)

/-- The arguments of `register_event`. For a shadow event without an `_epsilon_change_func` the
source makes one, from the debounce configuration of the event if there is one: this is
`debounce`. -/
structure EventRegistration where
  client : UInt16
  service : ServiceKey
  event : UInt16
  eventgroups : List UInt16
  isField : Bool
  epsilonChange : Option (List UInt8 → List UInt8 → Bool)
  debounce : List UInt8 → List UInt8 → Bool
  isProvided : Bool
  isShadow : Bool
  isCachePlaceholder : Bool

namespace EventRegistration

/-- The eventgroups that an event gets which has none yet: the given ones, or one with the id of the
event. -/
def eventgroupsOrOwn (r : EventRegistration) : List UInt16 :=
  if r.eventgroups.length = 0 then [r.event] else r.eventgroups

/-- The update of a registered event. -/
def update (r : EventRegistration) (ev : Event) : Event :=
  let ev := if r.isProvided then { ev with isProvided := true } else ev
  r.eventgroups.foldl Event.addEventgroup ev

/-- A placeholder gets the real values. -/
def fill (r : EventRegistration) (ev : Event) : Event :=
  let ev := if r.isField then ev else ev.unsetPayload
  let ev := { ev with
    isField := r.isField, isProvided := r.isProvided, isCachePlaceholder := false,
    epsilonChange := r.epsilonChange.getD ev.epsilonChange }
  if r.eventgroups.length = 0 then ev.setEventgroups [r.event]
  else r.eventgroups.foldl Event.addEventgroup ev

/-- A new event. -/
def create (r : EventRegistration) : Event :=
  let ev := Event.new r.service r.event
  let ev := { ev with
    isField := r.isField, isProvided := r.isProvided, isCachePlaceholder := r.isCachePlaceholder,
    epsilonChange := r.epsilonChange.getD (if r.isShadow then r.debounce else ev.epsilonChange) }
  ev.setEventgroups r.eventgroupsOrOwn

/-- The three branches of `register_event`: what becomes of the event that is found, and whether the
subscriptions to `ANY_EVENT` are transferred. -/
def apply (r : EventRegistration) : Option Event → Event × Bool
  | some ev =>
    if ¬ ev.isCachePlaceholder then
      if ev.isField = r.isField then (r.update ev, true) else (ev, false)
    else (r.fill ev, false)
  | none => (r.create, r.isProvided)

variable (r : EventRegistration)

/-- The eventgroups of a registration, or the event itself if it names none. -/
lemma mem_eventgroupsOrOwn {g : UInt16} :
    g ∈ r.eventgroupsOrOwn ↔ g ∈ r.eventgroups ∨ (r.eventgroups = [] ∧ g = r.event) := by
  simp only [eventgroupsOrOwn, List.length_eq_zero_iff]
  split_ifs with h
  · simp [h]
  · simp [h]

/-- The event that a registration makes. -/
lemma create_eq : ∃ m,
    r.create = { Event.new r.service r.event with
      isField := r.isField, isProvided := r.isProvided, isCachePlaceholder := r.isCachePlaceholder,
      epsilonChange := r.create.epsilonChange, eventgroups := m } ∧
      (∀ g, g ∈ m ↔ g ∈ r.eventgroupsOrOwn) ∧ ∀ g, m.getD g ∅ = ∅ := by
  refine ⟨r.create.eventgroups, rfl, fun g => ?_, fun g => ?_⟩
  · rw [create, Event.mem_setEventgroups]
    exact or_iff_left TreeMap.not_mem_emptyc
  · refine (Event.getSubscribers_setEventgroups _ r.eventgroupsOrOwn g).trans ?_
    by_cases hg : g ∈ r.eventgroupsOrOwn
    · exact if_pos hg
    · exact (if_neg hg).trans TreeMap.getD_emptyc

/-- The update of a registered event changes its eventgroups and whether it is provided. -/
lemma update_eq (ev : Event) : ∃ m,
    r.update ev = { ev with isProvided := r.isProvided || ev.isProvided, eventgroups := m } ∧
      (∀ g, g ∈ m ↔ g ∈ r.eventgroups ∨ g ∈ ev.eventgroups) ∧
      ∀ g, m.getD g ∅ = ev.getSubscribers g := by
  have hprovided : (if r.isProvided then { ev with isProvided := true } else ev) =
      { ev with isProvided := r.isProvided || ev.isProvided } := by
    cases r.isProvided <;> rfl
  rw [update, hprovided]
  exact Event.foldl_addEventgroup_eq r.eventgroups _

/-- The eventgroups and the flags of a placeholder that gets the real values. -/
lemma fill_eq (ev : Event) : ∃ m,
    r.fill ev = { ev with
      isField := r.isField, isProvided := r.isProvided, isCachePlaceholder := false,
      payload := if r.isField then ev.payload else [], isSet := r.isField && ev.isSet,
      epsilonChange := r.epsilonChange.getD ev.epsilonChange, eventgroups := m } ∧
      (∀ g, g ∈ m ↔ g ∈ r.eventgroupsOrOwn ∨ g ∈ ev.eventgroups) ∧
      ∀ g, m.getD g ∅ = if r.eventgroups = [] ∧ g = r.event then ∅ else ev.getSubscribers g := by
  have hunset : (if r.isField then ev else ev.unsetPayload) =
      { ev with payload := if r.isField then ev.payload else [],
                isSet := r.isField && ev.isSet } := by
    cases r.isField <;> rfl
  simp only [fill, hunset, List.length_eq_zero_iff, eventgroupsOrOwn]
  by_cases hempty : r.eventgroups = []
  · rw [if_pos hempty, if_pos hempty]
    refine ⟨_, rfl, fun g => Event.mem_setEventgroups _ [r.event], fun g => ?_⟩
    refine (Event.getSubscribers_setEventgroups _ [r.event] g).trans ?_
    simp only [List.mem_singleton, hempty, true_and]
    rfl
  · rw [if_neg hempty, if_neg hempty]
    obtain ⟨m, hm, hmem, hsub⟩ := Event.foldl_addEventgroup_eq r.eventgroups { ev with
      isField := r.isField, isProvided := r.isProvided, isCachePlaceholder := false,
      payload := if r.isField then ev.payload else [], isSet := r.isField && ev.isSet,
      epsilonChange := r.epsilonChange.getD ev.epsilonChange }
    refine ⟨m, hm, hmem, fun g => (hsub g).trans ?_⟩
    exact (if_neg fun h => hempty h.1).symm

end EventRegistration

namespace EventRegistry

/-- The tables of a new routing manager. -/
def empty : EventRegistry where
  objects := fun _ => Event.new (0, 0) 0
  next := 0
  events := fun _ _ => none
  eventgroups := fun _ _ => none

/-- `find_event`. -/
def findEvent (s : EventRegistry) (service : ServiceKey) (event : UInt16) : Option Event :=
  (s.events service event).map s.objects

/-- The object behind a pointer changes. -/
def write (s : EventRegistry) (p : ℕ) (ev : Event) : EventRegistry :=
  { s with objects := Function.update s.objects p ev }

/-- `find_events`: the events of an eventgroup. -/
def findEvents (s : EventRegistry) (service : ServiceKey) (eventgroup : UInt16) : Finset ℕ :=
  (s.eventgroups service eventgroup).getD ∅

/-- Replace an `eventgroupinfo`. -/
def setEventgroup (s : EventRegistry) (service : ServiceKey) (eventgroup : UInt16)
    (info : Option (Finset ℕ)) : EventRegistry :=
  { s with eventgroups := fun k eg =>
      if k = service ∧ eg = eventgroup then info else s.eventgroups k eg }

/-- `eventgroupinfo::add_event`, on a new `eventgroupinfo` if there is none. -/
def addEvent (s : EventRegistry) (service : ServiceKey) (p : ℕ) (eventgroup : UInt16) :
    EventRegistry :=
  s.setEventgroup service eventgroup (some (insert p (s.findEvents service eventgroup)))

/-- `eventgroupinfo::remove_event`. An `eventgroupinfo` without events is removed. -/
def removeEvent (s : EventRegistry) (service : ServiceKey) (p : ℕ) (eventgroup : UInt16) :
    EventRegistry :=
  match s.eventgroups service eventgroup with
  | none => s
  | some info =>
    let info := info.erase p
    s.setEventgroup service eventgroup (if info.card = 0 then none else some info)

/-- Replace the entry of `events_`. -/
def setEvent (s : EventRegistry) (service : ServiceKey) (event : UInt16) (entry : Option ℕ) :
    EventRegistry :=
  { s with events := fun k e =>
      if k = service ∧ e = event then entry else s.events k e }

/-- The pointer to the event of a registration: that in `events_`, or the next one. -/
def pointer (s : EventRegistry) (r : EventRegistration) : ℕ :=
  (s.events r.service r.event).getD s.next

/-- The object of a registration after its branch and the transfer of subscriptions. -/
def registered (s : EventRegistry) (r : EventRegistration) : Event :=
  let (ev, transfer) := r.apply (s.findEvent r.service r.event)
  if transfer then
    match (s.write (s.pointer r) ev).findEvent r.service anyEvent with
    | some any => ev.transferSubscriptions any r.eventgroups
    | none => ev
  else ev

/-- `register_event`. -/
def registerEvent (s : EventRegistry) (r : EventRegistration) : EventRegistry :=
  let p := s.pointer r
  let ev := s.registered r
  let ev := if r.isCachePlaceholder then ev else ev.addRef r.client r.isProvided
  let next := if (s.events r.service r.event).isSome then s.next else s.next + 1
  let s := r.eventgroups.foldl (fun s eg => s.addEvent r.service p eg)
    { s.write p ev with next := next }
  s.setEvent r.service r.event (some p)

/-- `unregister_event`. -/
def unregisterEvent (s : EventRegistry) (client : UInt16) (service : ServiceKey) (event : UInt16)
    (isProvided : Bool) : EventRegistry :=
  match s.events service event with
  | none => s
  | some p =>
    let ev := (s.objects p).removeRef client isProvided
    if ¬ ev.hasRef then
      let s := (s.write p ev).setEvent service event none
      ev.eventgroups.keys.foldl (fun s eg => s.removeEvent service p eg) s
    else if isProvided then s.write p { ev with isProvided := false }
    else s.write p ev

/-! ## Lemmas on the tables -/

variable (s : EventRegistry) {service : ServiceKey}

/-- The events of the eventgroups after one is set. -/
lemma findEvents_setEventgroup (eventgroup : UInt16) (info : Option (Finset ℕ)) (k : ServiceKey)
    (eg : UInt16) : (s.setEventgroup service eventgroup info).findEvents k eg =
      if k = service ∧ eg = eventgroup then info.getD ∅ else s.findEvents k eg := by
  simp only [findEvents, setEventgroup]
  split_ifs <;> rfl

/-- The events of the eventgroups after one is added. -/
lemma mem_findEvents_addEvent (p : ℕ) (eventgroup : UInt16) (k : ServiceKey) (eg : UInt16) (q : ℕ) :
    q ∈ (s.addEvent service p eventgroup).findEvents k eg ↔
      (k = service ∧ eg = eventgroup ∧ q = p) ∨ q ∈ s.findEvents k eg := by
  rw [addEvent, findEvents_setEventgroup]
  split_ifs with h
  · obtain ⟨rfl, rfl⟩ := h
    rw [Option.getD_some, Finset.mem_insert]
    simp
  · constructor
    · exact Or.inr
    · rintro (⟨hk, heg, -⟩ | hq)
      · exact absurd ⟨hk, heg⟩ h
      · exact hq

/-- The events of the eventgroups after one is removed. -/
lemma mem_findEvents_removeEvent (p : ℕ) (eventgroup : UInt16) (k : ServiceKey) (eg : UInt16)
    (q : ℕ) : q ∈ (s.removeEvent service p eventgroup).findEvents k eg ↔
      q ∈ s.findEvents k eg ∧ ¬ (k = service ∧ eg = eventgroup ∧ q = p) := by
  unfold removeEvent
  cases hinfo : s.eventgroups service eventgroup with
  | none =>
    refine (and_iff_left_of_imp fun hq => ?_).symm
    rintro ⟨rfl, rfl, -⟩
    rw [findEvents, hinfo] at hq
    exact absurd hq (Finset.notMem_empty q)
  | some info =>
    dsimp only
    rw [findEvents_setEventgroup]
    by_cases h : k = service ∧ eg = eventgroup
    · obtain ⟨rfl, rfl⟩ := h
      have herase : ((if (info.erase p).card = 0 then none else some (info.erase p)).getD ∅) =
          info.erase p := by
        split_ifs with hcard
        · rw [Finset.card_eq_zero.mp hcard]
          rfl
        · rfl
      rw [if_pos ⟨rfl, rfl⟩, herase, Finset.mem_erase, findEvents, hinfo, Option.getD_some]
      tauto
    · rw [if_neg h]
      refine (and_iff_left_of_imp fun _ => ?_).symm
      rintro ⟨hk, heg, -⟩
      exact h ⟨hk, heg⟩

/-- The loop that adds an event to eventgroups. -/
lemma foldl_addEvent_eq (service : ServiceKey) (p : ℕ) (egs : List UInt16) : ∀ s : EventRegistry,
    ∃ f, egs.foldl (fun s eg => s.addEvent service p eg) s = { s with eventgroups := f } ∧
      ∀ k eg q, q ∈ (f k eg).getD ∅ ↔ (k = service ∧ eg ∈ egs ∧ q = p) ∨ q ∈ s.findEvents k eg := by
  induction egs with
  | nil => exact fun s => ⟨s.eventgroups, rfl, fun k eg q => by simp [findEvents]⟩
  | cons g egs ih =>
    intro s
    obtain ⟨f, hf, hmem⟩ := ih (s.addEvent service p g)
    refine ⟨f, by rw [List.foldl_cons, hf]; rfl, fun k eg q => ?_⟩
    rw [hmem, mem_findEvents_addEvent, List.mem_cons]
    tauto

/-- The loop that removes an event from eventgroups. -/
lemma foldl_removeEvent_eq (service : ServiceKey) (p : ℕ) (egs : List UInt16) :
    ∀ s : EventRegistry,
    ∃ f, egs.foldl (fun s eg => s.removeEvent service p eg) s = { s with eventgroups := f } ∧
      ∀ k eg q, q ∈ (f k eg).getD ∅ ↔
        q ∈ s.findEvents k eg ∧ ¬ (k = service ∧ eg ∈ egs ∧ q = p) := by
  induction egs with
  | nil => exact fun s => ⟨s.eventgroups, rfl, fun k eg q => by simp [findEvents]⟩
  | cons g egs ih =>
    intro s
    obtain ⟨f, hf, hmem⟩ := ih (s.removeEvent service p g)
    have hremove : ∃ f, s.removeEvent service p g = { s with eventgroups := f } := by
      unfold removeEvent
      split
      · exact ⟨s.eventgroups, rfl⟩
      · exact ⟨_, rfl⟩
    obtain ⟨f', hf'⟩ := hremove
    refine ⟨f, by rw [List.foldl_cons, hf, hf'], fun k eg q => ?_⟩
    rw [hmem, mem_findEvents_removeEvent, List.mem_cons]
    tauto

/-! ## What the operations do -/

section RegisterEvent

variable (r : EventRegistration)

/-- The object of a registration with the reference of the client. -/
def withRef (s : EventRegistry) (r : EventRegistration) : Event :=
  if r.isCachePlaceholder then s.registered r else (s.registered r).addRef r.client r.isProvided

/-- `register_event` as a whole: the object, its entry in `events_`, and the eventgroups of the
registration, to which the event is added. -/
lemma registerEvent_eq : ∃ f,
    s.registerEvent r =
      { objects := Function.update s.objects (s.pointer r) (s.withRef r)
        next := if (s.events r.service r.event).isSome then s.next else s.next + 1
        events := fun k e =>
          if k = r.service ∧ e = r.event then some (s.pointer r) else s.events k e
        eventgroups := f } ∧
      ∀ k eg q, q ∈ (f k eg).getD ∅ ↔
        (k = r.service ∧ eg ∈ r.eventgroups ∧ q = s.pointer r) ∨ q ∈ s.findEvents k eg := by
  obtain ⟨f, hf, hmem⟩ := foldl_addEvent_eq r.service (s.pointer r) r.eventgroups
    { s.write (s.pointer r) (s.withRef r) with
      next := if (s.events r.service r.event).isSome then s.next else s.next + 1 }
  refine ⟨f, ?_, hmem⟩
  unfold withRef at hf
  simp only [registerEvent, hf]
  rfl

/-- A registration changes one object. -/
lemma objects_registerEvent :
    (s.registerEvent r).objects = Function.update s.objects (s.pointer r) (s.withRef r) := by
  obtain ⟨f, hf, -⟩ := s.registerEvent_eq r
  rw [hf]

/-- A registration of an unknown event takes a new object. -/
lemma next_registerEvent : (s.registerEvent r).next =
    if (s.events r.service r.event).isSome then s.next else s.next + 1 := by
  obtain ⟨f, hf, -⟩ := s.registerEvent_eq r
  rw [hf]

/-- The registered events after a registration. -/
lemma events_registerEvent (k : ServiceKey) (e : UInt16) : (s.registerEvent r).events k e =
    if k = r.service ∧ e = r.event then some (s.pointer r) else s.events k e := by
  obtain ⟨f, hf, -⟩ := s.registerEvent_eq r
  rw [hf]

/-- A registration adds its event to its eventgroups. -/
lemma mem_findEvents_registerEvent (k : ServiceKey) (eg : UInt16) (q : ℕ) :
    q ∈ (s.registerEvent r).findEvents k eg ↔
      (k = r.service ∧ eg ∈ r.eventgroups ∧ q = s.pointer r) ∨ q ∈ s.findEvents k eg := by
  obtain ⟨f, hf, hmem⟩ := s.registerEvent_eq r
  rw [hf]
  exact hmem k eg q

end RegisterEvent

section UnregisterEvent

variable (client : UInt16) (service : ServiceKey) (event : UInt16) (isProvided : Bool)

/-- The last reference is given up: the event is removed from both tables. -/
lemma unregisterEvent_of_last {p : ℕ} (hp : s.events service event = some p)
    (hlast : ((s.objects p).removeRef client isProvided).hasRef = false) : ∃ f,
    s.unregisterEvent client service event isProvided =
      { objects := Function.update s.objects p ((s.objects p).removeRef client isProvided)
        next := s.next
        events := fun k e => if k = service ∧ e = event then none else s.events k e
        eventgroups := f } ∧
      ∀ k eg q, q ∈ (f k eg).getD ∅ ↔ q ∈ s.findEvents k eg ∧
        ¬ (k = service ∧ eg ∈ ((s.objects p).removeRef client isProvided).eventgroups ∧ q = p) := by
  obtain ⟨f, hf, hmem⟩ := foldl_removeEvent_eq service p
    ((s.objects p).removeRef client isProvided).eventgroups.keys
    ((s.write p ((s.objects p).removeRef client isProvided)).setEvent service event none)
  refine ⟨f, ?_, fun k eg q => ?_⟩
  · simp only [unregisterEvent, hp, hlast, hf, Bool.false_eq_true, not_false_eq_true, if_true]
    rfl
  · rw [hmem, TreeMap.mem_keys]
    rfl

/-- A reference is given up and others are left. -/
lemma unregisterEvent_of_hasRef {p : ℕ} (hp : s.events service event = some p)
    (href : ((s.objects p).removeRef client isProvided).hasRef = true) :
    s.unregisterEvent client service event isProvided =
      s.write p (if isProvided then
          { (s.objects p).removeRef client isProvided with isProvided := false }
        else (s.objects p).removeRef client isProvided) := by
  simp only [unregisterEvent, hp, href, not_true_eq_false, if_false]
  split_ifs <;> rfl

end UnregisterEvent

/-! ## Who owns an object -/

/-- The pointers of the tables are those of objects that have been made, and an object belongs to
the service instance, and in `events_` to the event, under which it is found. -/
structure Owned (s : EventRegistry) : Prop where
  lt_next : ∀ {k e p}, s.events k e = some p → p < s.next
  key : ∀ {k e p}, s.events k e = some p → (s.objects p).service = k ∧ (s.objects p).event = e
  listed_lt : ∀ {k eg p}, p ∈ s.findEvents k eg → p < s.next
  listed_service : ∀ {k eg p}, p ∈ s.findEvents k eg → (s.objects p).service = k

/-- Empty tables are owned. -/
lemma owned_empty : empty.Owned where
  lt_next h := by cases h
  key h := by cases h
  listed_lt h := absurd h (Finset.notMem_empty _)
  listed_service h := absurd h (Finset.notMem_empty _)

variable {s}

/-- An object is registered under one key. -/
lemma Owned.inj (h : s.Owned) {k k' : ServiceKey} {e e' : UInt16} {p : ℕ}
    (hp : s.events k e = some p) (hp' : s.events k' e' = some p) : k = k' ∧ e = e' := by
  obtain ⟨hk, he⟩ := h.key hp
  obtain ⟨hk', he'⟩ := h.key hp'
  exact ⟨hk.symm.trans hk', he.symm.trans he'⟩

/-! ## The branches of `register_event` -/

/-- The subscribers of the event for `ANY_EVENT`. -/
def anySubscribers (s : EventRegistry) (service : ServiceKey) (eventgroup : UInt16) :
    Finset UInt16 :=
  ((s.findEvent service anyEvent).map (·.getSubscribers eventgroup)).getD ∅

section Registered

variable (r : EventRegistration) {p : ℕ}

/-- The event is new. -/
lemma Owned.registered_of_none (hs : s.Owned) (hp : s.events r.service r.event = none) : ∃ m,
    s.registered r = { r.create with eventgroups := m } ∧ (∀ g, g ∈ m ↔ g ∈ r.eventgroupsOrOwn) ∧
      ∀ g, m.getD g ∅ =
        if r.isProvided ∧ g ∈ r.eventgroups then s.anySubscribers r.service g else ∅ := by
  obtain ⟨m, hm, hmem, hsub⟩ := r.create_eq
  have hfind : s.findEvent r.service r.event = none := by rw [findEvent, hp]; rfl
  have hcreate : { r.create with eventgroups := m } = r.create := by rw [hm]
  have hgroups : r.create.eventgroups = m := by rw [hm]
  simp only [registered, hfind, EventRegistration.apply]
  by_cases hprovided : r.isProvided = true
  · have hany : (s.write (s.pointer r) r.create).findEvent r.service anyEvent =
        s.findEvent r.service anyEvent := by
      simp only [findEvent, write]
      cases hq : s.events r.service anyEvent with
      | none => rfl
      | some q =>
        have hne : q ≠ s.pointer r := by
          rw [pointer, hp, Option.getD_none]
          exact Nat.ne_of_lt (hs.lt_next hq)
        rw [Option.map_some, Option.map_some, Function.update_of_ne hne]
    rw [if_pos hprovided, hany]
    cases hfound : s.findEvent r.service anyEvent with
    | none =>
      refine ⟨m, hcreate.symm, hmem, fun g => ?_⟩
      simp only [hsub, anySubscribers, hfound, Option.map_none, Option.getD_none, ite_self]
    | some any =>
      obtain ⟨m', hm', hmem', hsub'⟩ := Event.transferSubscriptions_eq any r.eventgroups r.create
        fun g hg => by rw [hgroups, hmem, r.mem_eventgroupsOrOwn]; exact .inl hg
      refine ⟨m', hm', fun g => by rw [hmem', hgroups, hmem], fun g => ?_⟩
      rw [hsub', Event.getSubscribers, hgroups, hsub, Finset.empty_union]
      simp only [hprovided, true_and, anySubscribers, hfound, Option.map_some, Option.getD_some]
  · rw [if_neg hprovided]
    refine ⟨m, hcreate.symm, hmem, fun g => ?_⟩
    rw [hsub, if_neg fun h => hprovided h.1]

/-- The event is registered as one of the same kind. -/
lemma registered_of_isField_eq (hp : s.events r.service r.event = some p)
    (hplaceholder : (s.objects p).isCachePlaceholder = false)
    (hfield : (s.objects p).isField = r.isField) : ∃ m,
    s.registered r = { s.objects p with
        isProvided := r.isProvided || (s.objects p).isProvided, eventgroups := m } ∧
      (∀ g, g ∈ m ↔ g ∈ r.eventgroups ∨ g ∈ (s.objects p).eventgroups) ∧
      ∀ g, m.getD g ∅ = (s.objects p).getSubscribers g ∪
        if g ∈ r.eventgroups then s.anySubscribers r.service g else ∅ := by
  obtain ⟨m, hm, hmem, hsub⟩ := r.update_eq (s.objects p)
  have happly : r.apply (s.findEvent r.service r.event) = (r.update (s.objects p), true) := by
    rw [findEvent, hp]
    simp only [Option.map_some, EventRegistration.apply, hplaceholder, hfield, Bool.false_eq_true,
      not_false_eq_true, if_true]
  have hptr : s.pointer r = p := by rw [pointer, hp]; rfl
  simp only [registered, happly, hptr, if_true]
  -- The update keeps the subscribers, so that it does not matter if this is the event `ANY_EVENT`.
  cases hany : s.events r.service anyEvent with
  | none =>
    have hfound : (s.write p (r.update (s.objects p))).findEvent r.service anyEvent = none := by
      rw [findEvent, write, hany]
      rfl
    rw [hfound]
    refine ⟨m, hm, hmem, fun g => ?_⟩
    rw [hsub, anySubscribers, findEvent, hany, Option.map_none, Option.map_none, Option.getD_none,
      ite_self, Finset.union_empty]
  | some q =>
    have hfound : ∃ any, (s.write p (r.update (s.objects p))).findEvent r.service anyEvent =
        some any ∧ ∀ g, any.getSubscribers g = s.anySubscribers r.service g := by
      refine ⟨Function.update s.objects p (r.update (s.objects p)) q, ?_, fun g => ?_⟩
      · rw [findEvent, write, hany]
        rfl
      · rw [anySubscribers, findEvent, hany]
        by_cases hq : q = p
        · rw [hq, Function.update_self, hm]
          exact hsub g
        · rw [Function.update_of_ne hq]
          rfl
    obtain ⟨any, hfound, hanySub⟩ := hfound
    rw [hfound]
    have hgroups : (r.update (s.objects p)).eventgroups = m := by rw [hm]
    obtain ⟨m', hm', hmem', hsub'⟩ := Event.transferSubscriptions_eq any r.eventgroups
      (r.update (s.objects p)) fun g hg => by rw [hgroups, hmem]; exact .inl hg
    refine ⟨m', ?_, fun g => by rw [hmem', hgroups, hmem], fun g => ?_⟩
    · refine hm'.trans ?_
      rw [hm]
    · rw [hsub', Event.getSubscribers, hgroups, hsub, hanySub]

/-- The event is registered as one of another kind, and stays as it is. -/
lemma registered_of_isField_ne (hp : s.events r.service r.event = some p)
    (hplaceholder : (s.objects p).isCachePlaceholder = false)
    (hfield : (s.objects p).isField ≠ r.isField) : s.registered r = s.objects p := by
  have hfind : s.findEvent r.service r.event = some (s.objects p) := by rw [findEvent, hp]; rfl
  simp only [registered, hfind, EventRegistration.apply, hplaceholder, hfield, Bool.false_eq_true,
    not_false_eq_true, if_true, if_false]

/-- There is a placeholder for the event. -/
lemma registered_of_placeholder (hp : s.events r.service r.event = some p)
    (hplaceholder : (s.objects p).isCachePlaceholder = true) :
    s.registered r = r.fill (s.objects p) := by
  have hfind : s.findEvent r.service r.event = some (s.objects p) := by rw [findEvent, hp]; rfl
  simp only [registered, hfind, EventRegistration.apply, hplaceholder, not_true_eq_false, if_false,
    Bool.false_eq_true]

end Registered

/-- The event that a registration fills has its key. -/
lemma Owned.key_registered (hs : s.Owned) (r : EventRegistration) :
    (s.registered r).service = r.service ∧ (s.registered r).event = r.event := by
  cases hp : s.events r.service r.event with
  | none =>
    obtain ⟨m, hm, -⟩ := hs.registered_of_none r hp
    rw [hm]
    exact ⟨rfl, rfl⟩
  | some p =>
    obtain ⟨hservice, hevent⟩ := hs.key hp
    cases hplaceholder : (s.objects p).isCachePlaceholder with
    | true =>
      obtain ⟨m, hm, -⟩ := r.fill_eq (s.objects p)
      rw [registered_of_placeholder r hp hplaceholder, hm]
      exact ⟨hservice, hevent⟩
    | false =>
      by_cases hfield : (s.objects p).isField = r.isField
      · obtain ⟨m, hm, -⟩ := registered_of_isField_eq r hp hplaceholder hfield
        rw [hm]
        exact ⟨hservice, hevent⟩
      · rw [registered_of_isField_ne r hp hplaceholder hfield]
        exact ⟨hservice, hevent⟩

/-- The event with its reference has the key of the registration. -/
lemma Owned.key_withRef (hs : s.Owned) (r : EventRegistration) :
    (s.withRef r).service = r.service ∧ (s.withRef r).event = r.event := by
  unfold withRef
  split_ifs
  · exact hs.key_registered r
  · exact hs.key_registered r

/-- The pointer of a registration is that of its event, or a new one. -/
lemma Owned.pointer_lt (hs : s.Owned) (r : EventRegistration) :
    s.pointer r < (s.registerEvent r).next := by
  rw [next_registerEvent, pointer]
  cases hp : s.events r.service r.event with
  | none => exact Nat.lt_succ_self s.next
  | some p => exact hs.lt_next hp

/-- Objects are not given back by a registration. -/
lemma next_le_registerEvent (r : EventRegistration) : s.next ≤ (s.registerEvent r).next := by
  rw [next_registerEvent]
  split_ifs
  · exact Nat.le_refl _
  · exact Nat.le_succ _

/-- An object that is not that of the registration is not changed by it. -/
lemma objects_registerEvent_of_ne (r : EventRegistration) {q : ℕ} (hq : q ≠ s.pointer r) :
    (s.registerEvent r).objects q = s.objects q := by
  rw [objects_registerEvent, Function.update_of_ne hq]

/-- The object of the event after its registration. -/
lemma objects_registerEvent_pointer (r : EventRegistration) :
    (s.registerEvent r).objects (s.pointer r) = s.withRef r := by
  rw [objects_registerEvent, Function.update_self]

/-- Another event does not have the pointer of the registration. -/
lemma Owned.ne_pointer (hs : s.Owned) (r : EventRegistration) {k : ServiceKey} {e : UInt16} {q : ℕ}
    (hq : s.events k e = some q) (hne : ¬ (k = r.service ∧ e = r.event)) : q ≠ s.pointer r := by
  rintro rfl
  rw [pointer] at hq
  cases hp : s.events r.service r.event with
  | none =>
    rw [hp] at hq
    exact Nat.lt_irrefl _ (hs.lt_next hq)
  | some p =>
    rw [hp] at hq
    exact hne (hs.inj hq hp)

/-- The objects keep their service instances. -/
lemma Owned.service_registerEvent (hs : s.Owned) (r : EventRegistration) {q : ℕ}
    (hq : q < s.next) : ((s.registerEvent r).objects q).service = (s.objects q).service := by
  by_cases h : q = s.pointer r
  · rw [h, objects_registerEvent_pointer, (hs.key_withRef r).1]
    rw [pointer] at h ⊢
    cases hp : s.events r.service r.event with
    | none =>
      rw [hp] at h
      exact absurd h (Nat.ne_of_lt hq)
    | some p => exact (hs.key hp).1.symm
  · rw [objects_registerEvent_of_ne r h]

/-- A registration keeps the ownership. -/
lemma Owned.registerEvent (hs : s.Owned) (r : EventRegistration) : (s.registerEvent r).Owned where
  lt_next := fun {k e p} hp => by
    rw [events_registerEvent] at hp
    split_ifs at hp with h
    · obtain rfl := Option.some.inj hp
      exact hs.pointer_lt r
    · exact Nat.lt_of_lt_of_le (hs.lt_next hp) (next_le_registerEvent r)
  key := fun {k e p} hp => by
    rw [events_registerEvent] at hp
    split_ifs at hp with h
    · obtain rfl := Option.some.inj hp
      obtain ⟨rfl, rfl⟩ := h
      rw [objects_registerEvent_pointer]
      exact hs.key_withRef r
    · rw [objects_registerEvent_of_ne r (hs.ne_pointer r hp h)]
      exact hs.key hp
  listed_lt := fun {k eg p} hp => by
    rw [mem_findEvents_registerEvent] at hp
    obtain ⟨-, -, rfl⟩ | hp := hp
    · exact hs.pointer_lt r
    · exact Nat.lt_of_lt_of_le (hs.listed_lt hp) (next_le_registerEvent r)
  listed_service := fun {k eg p} hp => by
    rw [mem_findEvents_registerEvent] at hp
    obtain ⟨rfl, -, rfl⟩ | hp := hp
    · rw [objects_registerEvent_pointer]
      exact (hs.key_withRef r).1
    · rw [hs.service_registerEvent r (hs.listed_lt hp)]
      exact hs.listed_service hp

/-- The objects may change, but for their service instances and events. -/
lemma Owned.withObjects (hs : s.Owned) {objects : ℕ → Event}
    (hkey : ∀ q, (objects q).service = (s.objects q).service ∧
      (objects q).event = (s.objects q).event) : Owned { s with objects } := by
  refine ⟨hs.lt_next, fun {k e q} hq => ?_, hs.listed_lt, fun {k eg q} hq => ?_⟩
  · rw [(hkey q).1, (hkey q).2]
    exact hs.key hq
  · rw [(hkey q).1]
    exact hs.listed_service hq

/-- Writing an object that keeps its service instance and its event. -/
lemma Owned.write (hs : s.Owned) {p : ℕ} {ev : Event}
    (hev : ev.service = (s.objects p).service ∧ ev.event = (s.objects p).event) :
    (s.write p ev).Owned := by
  refine hs.withObjects fun q => ?_
  by_cases hq : q = p
  · rw [hq, Function.update_self]
    exact hev
  · rw [Function.update_of_ne hq]
    exact ⟨rfl, rfl⟩

/-- The end of a registration keeps the ownership. -/
lemma Owned.unregisterEvent (hs : s.Owned) (client : UInt16) (service : ServiceKey) (event : UInt16)
    (isProvided : Bool) : (s.unregisterEvent client service event isProvided).Owned := by
  cases hp : s.events service event with
  | none =>
    rw [EventRegistry.unregisterEvent, hp]
    exact hs
  | some p =>
    have hkey := (s.objects p).key_removeRef client isProvided
    cases href : ((s.objects p).removeRef client isProvided).hasRef with
    | true =>
      rw [unregisterEvent_of_hasRef s client service event isProvided hp href]
      refine hs.write ?_
      split_ifs
      · exact hkey
      · exact hkey
    | false =>
      obtain ⟨f, hf, hmem⟩ := unregisterEvent_of_last s client service event isProvided hp href
      have hwrite := hs.write hkey
      rw [hf]
      refine ⟨fun {k e q} hq => ?_, fun {k e q} hq => ?_, fun {k eg q} hq => ?_,
        fun {k eg q} hq => ?_⟩
      · dsimp only at hq
        split_ifs at hq
        exact hwrite.lt_next hq
      · dsimp only at hq
        split_ifs at hq
        exact hwrite.key hq
      · exact hwrite.listed_lt ((hmem k eg q).mp hq).1
      · exact hwrite.listed_service ((hmem k eg q).mp hq).1

end EventRegistry

end Vsomeip
