import Std.Data.TreeMap.Lemmas
import Vsomeip.Routing.EventRegistry
import Vsomeip.Runtime.Available

set_option relaxedAutoImplicit false
set_option autoImplicit false

/-!
# The gate for notifications

An application keeps its subscriptions, of an event or of all events of an eventgroup (`ANY_EVENT`),
each with a flag that a notification was received for it. A notification passes if it is covered by one
of them, and sets flags. But it does not set the flags of all subscriptions that cover it: a
subscription of the event hides those of its eventgroups, and of these only the first one is found.
When a subscription is repeated, the cached values are sent back if its flag is set, and are handled
like notifications.

## Main definitions

* `Vsomeip.EventSubscriptions` — the table of subscriptions, with the functions that use it.
* `Vsomeip.EventSubscriptions.flag` — the flag of a subscription.
* `Vsomeip.EventSubscriptions.Sets` — a notification sets the flag of a subscription.

## Main results

* `Vsomeip.EventSubscriptions.flag_checkForActiveSubscription` and the lemmas like it — the flags after
  each call.
* `Vsomeip.EventSubscriptions.checkForActiveSubscription_iff` — the gate lets through what is
  subscribed.
-/

namespace Vsomeip

open Std (TreeMap)

/-- An eventgroup and an event, or `ANY_EVENT`, of a service instance. -/
structure EventSubscription where
  service : UInt16
  inst : UInt16
  event : UInt16
  eventgroup : UInt16
deriving DecidableEq, Repr

/-- The eventgroups of an event, with the flags. -/
abbrev FlaggedEventgroups : Type := TreeMap UInt16 Bool

/-- `subscriptions_`. -/
abbrev EventSubscriptions : Type := TreeMap UInt16 (TreeMap UInt16 (TreeMap UInt16 FlaggedEventgroups))

/-- The eventgroups of an event, as `routing_->find_event` and `get_eventgroups` give them; an unknown
event has none. -/
abbrev EventgroupsOf : Type := UInt16 → UInt16 → UInt16 → List UInt16

namespace EventSubscriptions

variable (subs : EventSubscriptions)

/-! ## The functions -/

/-- The eventgroups that are found for an event. -/
def find (service inst event : UInt16) : Option FlaggedEventgroups := do
  let instances ← subs[service]?
  let events ← instances[inst]?
  events[event]?

/-- The flag of a subscription, if there is one. -/
def flag (x : EventSubscription) : Option Bool := do
  let eventgroups ← subs.find x.service x.inst x.event
  eventgroups[x.eventgroup]?

/-- `check_send_back_cached_event`: whether the cached value of the event, or those of the eventgroup,
are to be sent back. A new subscription is put into the table. -/
def checkSendBackCachedEvent (x : EventSubscription) : (Bool × Bool) × EventSubscriptions :=
  match subs.flag x with
  | some received =>
    ((received && decide (x.event ≠ anyEvent), received && decide (x.event = anyEvent)), subs)
  | none =>
    ((false, false), index subs x.service fun instances => index instances x.inst fun events =>
      index events x.event fun eventgroups => eventgroups.insert x.eventgroup false)

/-- `remove_subscription`, but for the state of the subscription. Containers that become empty are
removed. -/
def removeSubscription (x : EventSubscription) : EventSubscriptions :=
  match subs[x.service]? with
  | none => subs
  | some instances =>
    match instances[x.inst]? with
    | none => subs
    | some events =>
      match events[x.event]? with
      | none => subs
      | some eventgroups =>
        if x.eventgroup ∈ eventgroups then
          let eventgroups := eventgroups.erase x.eventgroup
          if eventgroups.isEmpty then
            let events := events.erase x.event
            if events.isEmpty then
              let instances := instances.erase x.inst
              if instances.isEmpty then subs.erase x.service
              else subs.insert x.service instances
            else subs.insert x.service (instances.insert x.inst events)
          else subs.insert x.service (instances.insert x.inst (events.insert x.event eventgroups))
        else subs

/-- `check_for_active_subscription`: whether a notification passes. If there are subscriptions of the
event, then the flags of all of them are set; else only the flag of the first of its eventgroups that is
subscribed with `ANY_EVENT`. -/
def checkForActiveSubscription (groups : EventgroupsOf) (service inst event : UInt16) :
    Bool × EventSubscriptions :=
  match subs[service]? with
  | none => (false, subs)
  | some instances =>
    match instances[inst]? with
    | none => (false, subs)
    | some events =>
      match events[event]? with
      | some eventgroups =>
        if eventgroups.isEmpty then (false, subs)
        else (true, subs.insert service (instances.insert inst
          (events.insert event (eventgroups.map fun _ _ => true))))
      | none =>
        match events[anyEvent]? with
        | none => (false, subs)
        | some eventgroups =>
          match (groups service inst event).find? fun group => decide (group ∈ eventgroups) with
          | none => (false, subs)
          | some group => (true, subs.insert service (instances.insert inst
              (events.insert anyEvent (eventgroups.insert group true))))

/-- The part of `on_availability` for a service instance that is lost: all flags are taken back. -/
def resetFlags (service inst : UInt16) : EventSubscriptions :=
  match subs[service]? with
  | none => subs
  | some instances =>
    match instances[inst]? with
    | none => subs
    | some events => subs.insert service (instances.insert inst
        (events.map fun _ eventgroups => eventgroups.map fun _ _ => false))

/-- `subscribe`. The argument `cached` is what is found of cached field values: the event itself, if it
is in it, or the events of the eventgroup. A value that is sent back is handled by `on_message` like a
notification that is received. -/
def subscribe (groups : EventgroupsOf) (x : EventSubscription) (cached : List UInt16) :
    EventSubscriptions :=
  let ((sendBackCached, sendBackCachedGroup), subs) := subs.checkSendBackCachedEvent x
  let sent :=
    if sendBackCached then (if x.event ∈ cached then [x.event] else [])
    else if sendBackCachedGroup then cached else []
  sent.foldl (fun subs event => (subs.checkForActiveSubscription groups x.service x.inst event).2) subs

/-- Whether a repeated `subscribe` sends cached values back. -/
def sendsBack (x : EventSubscription) : Bool :=
  let ((sendBackCached, sendBackCachedGroup), _) := subs.checkSendBackCachedEvent x
  sendBackCached || sendBackCachedGroup

/-! ## The table after a call -/

section Table

variable {subs} {s i e s' i' e' : UInt16}

/-- The flag of a subscription, from its event and its eventgroup. -/
lemma flag_eq (x : EventSubscription) :
    subs.flag x = (subs.find x.service x.inst x.event).bind (·[x.eventgroup]?) := rfl

/-- The eventgroups of an event, from the nested maps. -/
lemma find_eq {instances : TreeMap UInt16 (TreeMap UInt16 FlaggedEventgroups)}
    {events : TreeMap UInt16 FlaggedEventgroups} (hinstances : subs[s]? = some instances)
    (hevents : instances[i]? = some events) : subs.find s i e = events[e]? := by
  rw [find, hinstances, Option.bind_eq_bind, Option.bind_some, hevents, Option.bind_eq_bind,
    Option.bind_some]

/-- The instances of a service are replaced. -/
lemma find_insert_instances (instances : TreeMap UInt16 (TreeMap UInt16 FlaggedEventgroups)) :
    find (subs.insert s instances) s' i' e' =
      if s' = s then instances[i']?.bind (·[e']?) else subs.find s' i' e' := by
  simp only [find, TreeMap.getElem?_insert, Std.compare_eq_iff_eq, Option.bind_eq_bind,
    eq_comm (a := s)]
  split_ifs <;> rfl

/-- The events of a service instance are replaced. -/
lemma find_insert {instances : TreeMap UInt16 (TreeMap UInt16 FlaggedEventgroups)}
    (hinstances : subs[s]? = some instances) (events : TreeMap UInt16 FlaggedEventgroups) :
    find (subs.insert s (instances.insert i events)) s' i' e' =
      if s' = s ∧ i' = i then events[e']? else subs.find s' i' e' := by
  rw [find_insert_instances]
  by_cases hs : s' = s
  · subst hs
    simp only [if_true, true_and, TreeMap.getElem?_insert, Std.compare_eq_iff_eq, eq_comm (a := i),
      find, hinstances, Option.bind_eq_bind, Option.bind_some]
    split_ifs <;> rfl
  · rw [if_neg hs, if_neg fun h => hs h.1]

/-- The eventgroups of an event are replaced. -/
lemma find_insert_event {instances : TreeMap UInt16 (TreeMap UInt16 FlaggedEventgroups)}
    {events : TreeMap UInt16 FlaggedEventgroups} (hinstances : subs[s]? = some instances)
    (hevents : instances[i]? = some events) (m : FlaggedEventgroups) :
    find (subs.insert s (instances.insert i (events.insert e m))) s' i' e' =
      if s' = s ∧ i' = i ∧ e' = e then some m else subs.find s' i' e' := by
  rw [find_insert hinstances]
  by_cases hsi : s' = s ∧ i' = i
  · rw [if_pos hsi, hsi.1, hsi.2, find_eq hinstances hevents]
    simp only [TreeMap.getElem?_insert, Std.compare_eq_iff_eq, eq_comm (a := e'), true_and]
  · rw [if_neg hsi, if_neg fun h => hsi ⟨h.1, h.2.1⟩]

/-- What is found in a container, or in an empty one. -/
lemma getElem?_getD_default {β : Type} (t : TreeMap UInt16 (TreeMap UInt16 β)) (k k' : UInt16) :
    (t.getD k default)[k']? = t[k]?.bind (·[k']?) := by
  rw [TreeMap.getD_eq_getD_getElem?]
  cases t[k]? with
  | none => rfl
  | some _ => rfl

/-- A container is made where there is none. -/
lemma find_index (f : FlaggedEventgroups → FlaggedEventgroups) :
    find (index subs s fun instances => index instances i fun events => index events e f) s' i' e' =
      if s' = s ∧ i' = i ∧ e' = e then some (f ((subs.find s i e).getD ∅)) else subs.find s' i' e' := by
  simp only [find, getElem?_index, Option.bind_eq_bind]
  by_cases hs : s = s'
  · subst hs
    rw [if_pos rfl, Option.bind_some, getElem?_index]
    by_cases hi : i = i'
    · subst hi
      rw [if_pos rfl, Option.bind_some, getElem?_index, TreeMap.getD_eq_getD_getElem? (a := e),
        TreeMap.getD_eq_getD_getElem? (a := i), getElem?_getD_default]
      by_cases he : e = e'
      · subst he
        rw [if_pos rfl, if_pos ⟨rfl, rfl, rfl⟩]
        cases subs[s]? with
        | none => rfl
        | some instances =>
          simp only [Option.bind_some]
          cases instances[i]? <;> rfl
      · rw [if_neg he, if_neg (fun h => he h.2.2.symm)]
        cases subs[s]? with
        | none => rfl
        | some instances =>
          simp only [Option.bind_some]
          cases instances[i]? <;> rfl
    · rw [if_neg hi, getElem?_getD_default, if_neg (fun h => hi h.2.1.symm)]
      exact Option.bind_assoc _ _ _
  · rw [if_neg hs, if_neg (fun h => hs h.1.symm)]

/-- A service instance is removed. -/
lemma find_insert_erase {instances : TreeMap UInt16 (TreeMap UInt16 FlaggedEventgroups)}
    (hinstances : subs[s]? = some instances) : find (subs.insert s (instances.erase i)) s' i' e' =
      if s' = s ∧ i' = i then none else subs.find s' i' e' := by
  rw [find_insert_instances]
  by_cases hs : s' = s
  · subst hs
    simp only [if_true, true_and, TreeMap.getElem?_erase, Std.compare_eq_iff_eq, eq_comm (a := i),
      find, hinstances, Option.bind_eq_bind, Option.bind_some]
    split_ifs <;> rfl
  · rw [if_neg hs, if_neg fun h => hs h.1]

/-- The last instance of a service is removed. -/
lemma find_erase {instances : TreeMap UInt16 (TreeMap UInt16 FlaggedEventgroups)}
    (hinstances : subs[s]? = some instances) (hempty : (instances.erase i).isEmpty = true) :
    find (subs.erase s) s' i' e' = if s' = s ∧ i' = i then none else subs.find s' i' e' := by
  simp only [find, TreeMap.getElem?_erase, Std.compare_eq_iff_eq, Option.bind_eq_bind]
  by_cases hs : s = s'
  · subst hs
    rw [if_pos rfl, Option.bind_none, hinstances, Option.bind_some]
    by_cases hi : i = i'
    · simp [hi]
    · have hnone : instances[i']? = none := by
        have h := TreeMap.getElem?_of_isEmpty (a := i') hempty
        rwa [TreeMap.getElem?_erase, if_neg (by simpa using hi)] at h
      simp [hnone]
  · simp [hs, Ne.symm hs]

/-- What is left of the eventgroups of an event. -/
def remaining (eventgroup : UInt16) (eventgroups : FlaggedEventgroups) : Option FlaggedEventgroups :=
  if eventgroup ∈ eventgroups then
    if (eventgroups.erase eventgroup).isEmpty then none else some (eventgroups.erase eventgroup)
  else some eventgroups

/-- The eventgroups of the events after a subscription is removed. -/
lemma find_removeSubscription (x : EventSubscription) : find (subs.removeSubscription x) s' i' e' =
    if s' = x.service ∧ i' = x.inst ∧ e' = x.event then
      (subs.find x.service x.inst x.event).bind (remaining x.eventgroup)
    else subs.find s' i' e' := by
  have hskip (h : subs.find x.service x.inst x.event = none) : subs.find s' i' e' =
      if s' = x.service ∧ i' = x.inst ∧ e' = x.event then
        (subs.find x.service x.inst x.event).bind (remaining x.eventgroup)
      else subs.find s' i' e' := by
    split_ifs with heq
    · obtain ⟨rfl, rfl, rfl⟩ := heq
      rw [h]
      rfl
    · rfl
  cases hinstances : subs[x.service]? with
  | none =>
    simp only [removeSubscription, hinstances]
    exact hskip (by rw [find, hinstances]; rfl)
  | some instances =>
    cases hevents : instances[x.inst]? with
    | none =>
      simp only [removeSubscription, hinstances, hevents]
      exact hskip (by rw [find, hinstances, Option.bind_eq_bind, Option.bind_some, hevents]; rfl)
    | some events =>
      have hfind (e : UInt16) : subs.find x.service x.inst e = events[e]? := find_eq hinstances hevents
      cases hgroups : events[x.event]? with
      | none =>
        simp only [removeSubscription, hinstances, hevents, hgroups]
        exact hskip (by rw [hfind, hgroups])
      | some eventgroups =>
        -- one event of the instance is changed to `r`
        have hjoin {v r : Option FlaggedEventgroups}
            (hv : v = if e' = x.event then r else events[e']?) :
            (if s' = x.service ∧ i' = x.inst then v else subs.find s' i' e') =
              if s' = x.service ∧ i' = x.inst ∧ e' = x.event then r else subs.find s' i' e' := by
          by_cases hsi : s' = x.service ∧ i' = x.inst
          · rw [if_pos hsi, hv, hsi.1, hsi.2, hfind]
            simp
          · rw [if_neg hsi, if_neg fun h => hsi ⟨h.1, h.2.1⟩]
        have herase : (events.erase x.event)[e']? = if e' = x.event then none else events[e']? := by
          simp only [TreeMap.getElem?_erase, Std.compare_eq_iff_eq, eq_comm (a := e')]
        simp only [removeSubscription, hinstances, hevents, hgroups, hfind, Option.bind_some, remaining]
        by_cases hmem : x.eventgroup ∈ eventgroups
        · rw [if_pos hmem, if_pos hmem]
          by_cases hempty : (eventgroups.erase x.eventgroup).isEmpty = true
          · rw [if_pos hempty, if_pos hempty]
            by_cases hnone : (events.erase x.event).isEmpty = true
            · have hv : none = if e' = x.event then none else events[e']? := by
                rw [← herase, TreeMap.getElem?_of_isEmpty hnone]
              rw [if_pos hnone]
              by_cases hlast : (instances.erase x.inst).isEmpty = true
              · rw [if_pos hlast, find_erase hinstances hlast, hjoin hv]
              · rw [if_neg hlast, find_insert_erase hinstances, hjoin hv]
            · rw [if_neg hnone, find_insert hinstances, hjoin herase]
          · rw [if_neg hempty, if_neg hempty, find_insert_event hinstances hevents]
        · rw [if_neg hmem, if_neg hmem]
          split_ifs with heq
          · rw [heq.1, heq.2.1, heq.2.2, hfind, hgroups]
          · rfl

/-- The eventgroups of the events after the flags of an instance are reset. -/
lemma find_resetFlags : find (subs.resetFlags s i) s' i' e' =
    if s' = s ∧ i' = i then (subs.find s' i' e').map fun m => m.map fun _ _ => false
    else subs.find s' i' e' := by
  cases hinstances : subs[s]? with
  | none =>
    simp only [resetFlags, hinstances]
    split_ifs with h
    · rw [h.1, find, hinstances]
      rfl
    · rfl
  | some instances =>
    cases hevents : instances[i]? with
    | none =>
      simp only [resetFlags, hinstances, hevents]
      split_ifs with h
      · rw [h.1, h.2, find, hinstances, Option.bind_eq_bind, Option.bind_some, hevents]
        rfl
      · rfl
    | some events =>
      simp only [resetFlags, hinstances, hevents]
      rw [find_insert hinstances]
      split_ifs with h
      · rw [h.1, h.2, find_eq hinstances hevents, TreeMap.getElem?_map]
      · rfl

end Table

/-! ## The flags after a call -/

/-- No event is kept without eventgroups. -/
def Pruned : Prop := ∀ s i e m, subs.find s i e = some m → m.isEmpty = false

/-- A notification of the event sets the flag of the subscription: it is one of the event, or there is
none of the event and it is the first one of its eventgroups. -/
def Sets (groups : EventgroupsOf) (service inst event : UInt16) (x : EventSubscription) : Prop :=
  x.service = service ∧ x.inst = inst ∧ (subs.flag x).isSome ∧
    (x.event = event ∨
      (∀ g, subs.flag ⟨service, inst, event, g⟩ = none) ∧ x.event = anyEvent ∧
        (groups service inst event).find? (fun g => (subs.flag ⟨service, inst, anyEvent, g⟩).isSome) =
          some x.eventgroup)

section Flags

variable {subs} {s i e : UInt16} {groups : EventgroupsOf} {x y : EventSubscription}

/-- Subscriptions are equal if their events and their eventgroups are. -/
lemma eq_iff : y = x ↔ (y.service = x.service ∧ y.inst = x.inst ∧ y.event = x.event) ∧
    y.eventgroup = x.eventgroup := by
  cases x
  cases y
  simp [and_assoc]

/-- The flags after `check_send_back_cached_event`. -/
lemma flag_checkSendBackCachedEvent (x y : EventSubscription) :
    flag (subs.checkSendBackCachedEvent x).2 y =
      if y = x then some ((subs.flag x).getD false) else subs.flag y := by
  unfold checkSendBackCachedEvent
  cases hflag : subs.flag x with
  | some received =>
    split_ifs with h
    · rw [h, hflag]
      rfl
    · rfl
  | none =>
    simp only [flag_eq, find_index, eq_iff]
    by_cases h : y.service = x.service ∧ y.inst = x.inst ∧ y.event = x.event
    · rw [if_pos h, Option.bind_some, TreeMap.getElem?_insert, h.1, h.2.1, h.2.2]
      by_cases hg : x.eventgroup = y.eventgroup
      · simp [hg]
      · simp only [Std.compare_eq_iff_eq, hg, Ne.symm hg, if_false, and_false]
        cases subs.find x.service x.inst x.event <;> rfl
    · rw [if_neg h, if_neg fun h' => h h'.1]

/-- The flags that remain of an event. -/
lemma getElem?_remaining (g g' : UInt16) (m : FlaggedEventgroups) :
    ((remaining g m).bind (·[g']?)) = if g' = g then none else m[g']? := by
  have herase : (m.erase g)[g']? = if g' = g then none else m[g']? := by
    simp only [TreeMap.getElem?_erase, Std.compare_eq_iff_eq, eq_comm (a := g')]
  unfold remaining
  by_cases hmem : g ∈ m
  · rw [if_pos hmem, ← herase]
    by_cases hempty : (m.erase g).isEmpty = true
    · rw [if_pos hempty, TreeMap.getElem?_of_isEmpty hempty]
      rfl
    · rw [if_neg hempty]
      rfl
  · rw [if_neg hmem, Option.bind_some]
    split_ifs with hg
    · rw [hg]
      exact TreeMap.getElem?_eq_none hmem
    · rfl

/-- The flags after a subscription is removed. -/
lemma flag_removeSubscription (x y : EventSubscription) :
    flag (subs.removeSubscription x) y = if y = x then none else subs.flag y := by
  simp only [flag_eq, find_removeSubscription, eq_iff]
  by_cases h : y.service = x.service ∧ y.inst = x.inst ∧ y.event = x.event
  · rw [if_pos h, Option.bind_assoc, h.1, h.2.1, h.2.2]
    simp only [getElem?_remaining, and_self, true_and]
    split_ifs
    · exact Option.bind_fun_none _
    · rfl
  · rw [if_neg h, if_neg fun h' => h h'.1]

/-- What the gate can do. -/
lemma checkForActiveSubscription_cases (h : subs.Pruned) (groups : EventgroupsOf) (s i e : UInt16) :
    (∃ m, subs.find s i e = some m ∧ (subs.checkForActiveSubscription groups s i e).1 = true ∧
      ∀ s' i' e', find (subs.checkForActiveSubscription groups s i e).2 s' i' e' =
        if s' = s ∧ i' = i ∧ e' = e then some (m.map fun _ _ => true) else subs.find s' i' e') ∨
    (subs.find s i e = none ∧ ∃ m g, subs.find s i anyEvent = some m ∧
      (groups s i e).find? (fun g => decide (g ∈ m)) = some g ∧
      (subs.checkForActiveSubscription groups s i e).1 = true ∧
      ∀ s' i' e', find (subs.checkForActiveSubscription groups s i e).2 s' i' e' =
        if s' = s ∧ i' = i ∧ e' = anyEvent then some (m.insert g true) else subs.find s' i' e') ∨
    (subs.find s i e = none ∧
      (∀ m, subs.find s i anyEvent = some m → (groups s i e).find? (fun g => decide (g ∈ m)) = none) ∧
      subs.checkForActiveSubscription groups s i e = (false, subs)) := by
  cases hinstances : subs[s]? with
  | none =>
    have hfind (e : UInt16) : subs.find s i e = none := by rw [find, hinstances]; rfl
    refine Or.inr (Or.inr ⟨hfind e, fun m hm => ?_, ?_⟩)
    · rw [hfind] at hm
      cases hm
    · simp only [checkForActiveSubscription, hinstances]
  | some instances =>
    cases hevents : instances[i]? with
    | none =>
      have hfind (e : UInt16) : subs.find s i e = none := by
        rw [find, hinstances, Option.bind_eq_bind, Option.bind_some, hevents]
        rfl
      refine Or.inr (Or.inr ⟨hfind e, fun m hm => ?_, ?_⟩)
      · rw [hfind] at hm
        cases hm
      · simp only [checkForActiveSubscription, hinstances, hevents]
    | some events =>
      have hfind (e : UInt16) : subs.find s i e = events[e]? := find_eq hinstances hevents
      simp only [hfind]
      cases hgroups : events[e]? with
      | some m =>
        have hne : m.isEmpty = false := h s i e m (by rw [hfind, hgroups])
        refine Or.inl ⟨m, rfl, ?_⟩
        simp only [checkForActiveSubscription, hinstances, hevents, hgroups, hne, Bool.false_eq_true,
          if_false, find_insert_event hinstances hevents, true_and, implies_true]
      | none =>
        refine Or.inr ?_
        cases hany : events[anyEvent]? with
        | none =>
          refine Or.inr ⟨rfl, fun m hm => absurd hm (by simp), ?_⟩
          simp only [checkForActiveSubscription, hinstances, hevents, hgroups, hany]
        | some m =>
          cases hfirst : (groups s i e).find? (fun g => decide (g ∈ m)) with
          | none =>
            refine Or.inr ⟨rfl, fun m' hm' => ?_, ?_⟩
            · obtain rfl := Option.some.inj hm'
              exact hfirst
            · simp only [checkForActiveSubscription, hinstances, hevents, hgroups, hany, hfirst]
          | some g =>
            refine Or.inl ⟨rfl, m, g, rfl, hfirst, ?_⟩
            simp only [checkForActiveSubscription, hinstances, hevents, hgroups, hany, hfirst,
              find_insert_event hinstances hevents, true_and, implies_true]

/-- The flags of an event that is found. -/
lemma flag_of_find {m : FlaggedEventgroups} (h : subs.find s i e = some m) (g : UInt16) :
    subs.flag ⟨s, i, e, g⟩ = m[g]? := by
  rw [flag_eq, h, Option.bind_some]

/-- An event that is not found has no flags. -/
lemma flag_of_find_none (h : subs.find s i e = none) (g : UInt16) : subs.flag ⟨s, i, e, g⟩ = none := by
  rw [flag_eq, h, Option.bind_none]

/-- A subscription of an event that is found is there if its eventgroup is. -/
lemma isSome_flag_of_find {m : FlaggedEventgroups} (h : subs.find s i e = some m) (g : UInt16) :
    (subs.flag ⟨s, i, e, g⟩).isSome = decide (g ∈ m) := by
  rw [flag_of_find h, Bool.eq_iff_iff, decide_eq_true_iff, TreeMap.mem_iff_isSome_getElem?]

/-- There are subscriptions of an event that is found. -/
lemma exists_isSome_flag (h : subs.Pruned) {m : FlaggedEventgroups} (hm : subs.find s i e = some m) :
    ∃ g, (subs.flag ⟨s, i, e, g⟩).isSome := by
  obtain ⟨g, hg⟩ := TreeMap.isEmpty_eq_false_iff_exists_mem.mp (h s i e m hm)
  exact ⟨g, by rw [isSome_flag_of_find hm, decide_eq_true hg]⟩

/-- The search for an eventgroup of an event that is found. -/
lemma find?_isSome_flag {m : FlaggedEventgroups} (h : subs.find s i e = some m) (l : List UInt16) :
    l.find? (fun g => (subs.flag ⟨s, i, e, g⟩).isSome) = l.find? fun g => decide (g ∈ m) :=
  congrArg (List.find? · l) (funext fun g => isSome_flag_of_find h g)

/-- Without subscriptions of the event, the flag of the first of its eventgroups is set. -/
lemma sets_iff_of_first (hnone : subs.find s i e = none) {m : FlaggedEventgroups} {g : UInt16}
    (hm : subs.find s i anyEvent = some m)
    (hfirst : (groups s i e).find? (fun g => decide (g ∈ m)) = some g) :
    subs.Sets groups s i e y ↔ y = ⟨s, i, anyEvent, g⟩ := by
  have hmem : g ∈ m := by simpa using List.find?_some hfirst
  constructor
  · obtain ⟨s', i', e', g'⟩ := y
    rintro ⟨rfl, rfl, hsome, he | ⟨-, he, hg⟩⟩
    · dsimp only at he
      rw [he, flag_of_find_none hnone] at hsome
      cases hsome
    · dsimp only at he hg
      rw [find?_isSome_flag hm, hfirst] at hg
      rw [he, Option.some.inj hg]
  · rintro rfl
    refine ⟨rfl, rfl, ?_, Or.inr ⟨fun g => flag_of_find_none hnone g, rfl, ?_⟩⟩
    · rw [isSome_flag_of_find hm, decide_eq_true hmem]
    · rw [find?_isSome_flag hm, hfirst]

/-- If the search finds nothing, then no flag is set. -/
lemma not_sets (hnone : subs.find s i e = none)
    (hall : ∀ m, subs.find s i anyEvent = some m →
      (groups s i e).find? (fun g => decide (g ∈ m)) = none) : ¬ subs.Sets groups s i e y := by
  obtain ⟨s', i', e', g'⟩ := y
  rintro ⟨rfl, rfl, hsome, he | ⟨-, he, hg⟩⟩
  · dsimp only at he
    rw [he, flag_of_find_none hnone] at hsome
    cases hsome
  · dsimp only at he hg hsome
    rw [he] at hsome
    cases hany : subs.find s' i' anyEvent with
    | none =>
      rw [flag_of_find_none hany] at hsome
      cases hsome
    | some m =>
      rw [find?_isSome_flag hany, hall m hany] at hg
      cases hg

/-- A notification sets the flags that it sets, and no others. -/
lemma flag_checkForActiveSubscription (h : subs.Pruned) (groups : EventgroupsOf) (s i e : UInt16)
    (y : EventSubscription) :
    (subs.Sets groups s i e y → flag (subs.checkForActiveSubscription groups s i e).2 y = some true) ∧
      (¬ subs.Sets groups s i e y →
        flag (subs.checkForActiveSubscription groups s i e).2 y = subs.flag y) := by
  obtain ⟨s', i', e', g'⟩ := y
  rcases checkForActiveSubscription_cases h groups s i e with ⟨m, hm, -, hfind⟩ |
    ⟨hnone, m, g, hm, hfirst, -, hfind⟩ | ⟨hnone, hall, heq⟩
  · obtain ⟨g₀, hg₀⟩ := exists_isSome_flag h hm
    rw [flag_eq, hfind]
    by_cases hsame : s' = s ∧ i' = i ∧ e' = e
    · obtain ⟨rfl, rfl, rfl⟩ := hsame
      rw [if_pos ⟨rfl, rfl, rfl⟩, Option.bind_some, TreeMap.getElem?_map, flag_of_find hm]
      refine ⟨fun hsets => ?_, fun hnot => ?_⟩
      · obtain ⟨v, hv⟩ := Option.isSome_iff_exists.mp hsets.2.2.1
        rw [flag_of_find hm] at hv
        rw [hv]
        rfl
      · cases hv : m[g']? with
        | none => rfl
        | some v => exact absurd ⟨rfl, rfl, by rw [flag_of_find hm, hv]; rfl, Or.inl rfl⟩ hnot
    · rw [if_neg hsame]
      refine ⟨fun hsets => ?_, fun _ => rfl⟩
      rcases hsets.2.2.2 with he | ⟨hno, -⟩
      · exact absurd ⟨hsets.1, hsets.2.1, he⟩ hsame
      · rw [hno g₀] at hg₀
        cases hg₀
  · rw [sets_iff_of_first hnone hm hfirst, flag_eq, hfind]
    have hmem : g ∈ m := by simpa using List.find?_some hfirst
    by_cases hsame : s' = s ∧ i' = i ∧ e' = anyEvent
    · obtain ⟨rfl, rfl, rfl⟩ := hsame
      rw [if_pos ⟨rfl, rfl, rfl⟩, Option.bind_some, TreeMap.getElem?_insert, flag_of_find hm]
      simp only [Std.compare_eq_iff_eq, EventSubscription.mk.injEq, true_and, eq_comm (a := g)]
      exact ⟨fun hg => if_pos hg, fun hg => if_neg hg⟩
    · rw [if_neg hsame]
      refine ⟨fun heq => ?_, fun _ => rfl⟩
      rw [EventSubscription.mk.injEq] at heq
      exact absurd ⟨heq.1, heq.2.1, heq.2.2.1⟩ hsame
  · rw [heq]
    exact ⟨fun hsets => absurd hsets (not_sets hnone hall), fun _ => rfl⟩

/-- **The gate.** A notification passes exactly if the event is subscribed, or one of its eventgroups
with `ANY_EVENT`. -/
lemma checkForActiveSubscription_iff (h : subs.Pruned) (groups : EventgroupsOf) (s i e : UInt16) :
    (subs.checkForActiveSubscription groups s i e).1 = true ↔
      ∃ g, (subs.flag ⟨s, i, e, g⟩).isSome ∨
        (subs.flag ⟨s, i, anyEvent, g⟩).isSome ∧ g ∈ groups s i e := by
  rcases checkForActiveSubscription_cases h groups s i e with ⟨m, hm, hpass, -⟩ |
    ⟨-, m, g, hm, hfirst, hpass, -⟩ | ⟨hnone, hall, heq⟩
  · obtain ⟨g, hg⟩ := exists_isSome_flag h hm
    exact iff_of_true hpass ⟨g, Or.inl hg⟩
  · refine iff_of_true hpass ⟨g, Or.inr ⟨?_, List.mem_of_find?_eq_some hfirst⟩⟩
    rw [isSome_flag_of_find hm]
    simpa using List.find?_some hfirst
  · rw [heq]
    refine iff_of_false Bool.false_ne_true ?_
    rintro ⟨g, hg | ⟨hg, hgroup⟩⟩
    · rw [flag_of_find_none hnone] at hg
      cases hg
    · cases hany : subs.find s i anyEvent with
      | none =>
        rw [flag_of_find_none hany] at hg
        cases hg
      | some m =>
        rw [isSome_flag_of_find hany] at hg
        exact List.find?_eq_none.mp (hall m hany) g hgroup hg

/-- A lost service instance has no flags set. -/
lemma flag_resetFlags (s i : UInt16) (y : EventSubscription) : flag (subs.resetFlags s i) y =
    if y.service = s ∧ y.inst = i then (subs.flag y).map fun _ => false else subs.flag y := by
  simp only [flag_eq, find_resetFlags]
  by_cases h : y.service = s ∧ y.inst = i
  · rw [if_pos h, if_pos h]
    cases subs.find y.service y.inst y.event with
    | none => rfl
    | some m => exact TreeMap.getElem?_map
  · rw [if_neg h, if_neg h]

/-! ## No empty containers -/

/-- Without subscriptions nothing is left empty. -/
lemma pruned_empty : Pruned ∅ := by
  intro s i e m hm
  simp [find] at hm

/-- `check_send_back_cached_event` leaves no empty map. -/
lemma Pruned.checkSendBackCachedEvent (h : subs.Pruned) (x : EventSubscription) :
    Pruned (subs.checkSendBackCachedEvent x).2 := by
  unfold EventSubscriptions.checkSendBackCachedEvent
  cases subs.flag x with
  | some received => exact h
  | none =>
    intro s i e m hm
    simp only [find_index] at hm
    split_ifs at hm
    · rw [← Option.some.inj hm]
      exact TreeMap.isEmpty_insert
    · exact h s i e m hm

/-- Removing a subscription leaves no empty map. -/
lemma Pruned.removeSubscription (h : subs.Pruned) (x : EventSubscription) :
    Pruned (subs.removeSubscription x) := by
  intro s i e m hm
  rw [find_removeSubscription] at hm
  split_ifs at hm
  · obtain ⟨m', hm', hleft⟩ := Option.bind_eq_some_iff.mp hm
    unfold remaining at hleft
    split_ifs at hleft with hmem hempty
    · rw [← Option.some.inj hleft]
      exact Bool.eq_false_iff.mpr hempty
    · rw [← Option.some.inj hleft]
      exact h _ _ _ _ hm'
  · exact h s i e m hm

/-- `check_for_active_subscription` leaves no empty map. -/
lemma Pruned.checkForActiveSubscription (h : subs.Pruned) (groups : EventgroupsOf) (s i e : UInt16) :
    Pruned (subs.checkForActiveSubscription groups s i e).2 := by
  intro s' i' e' m' hm'
  rcases checkForActiveSubscription_cases h groups s i e with ⟨m, hm, -, hfind⟩ |
    ⟨-, m, g, -, -, -, hfind⟩ | ⟨-, -, heq⟩
  · rw [hfind] at hm'
    split_ifs at hm'
    · rw [← Option.some.inj hm', TreeMap.isEmpty_map]
      exact h s i e m hm
    · exact h s' i' e' m' hm'
  · rw [hfind] at hm'
    split_ifs at hm'
    · rw [← Option.some.inj hm']
      exact TreeMap.isEmpty_insert
    · exact h s' i' e' m' hm'
  · rw [heq] at hm'
    exact h s' i' e' m' hm'

/-- Resetting the flags leaves no empty map. -/
lemma Pruned.resetFlags (h : subs.Pruned) (s i : UInt16) : Pruned (subs.resetFlags s i) := by
  intro s' i' e' m' hm'
  rw [find_resetFlags] at hm'
  split_ifs at hm'
  · obtain ⟨m, hm, rfl⟩ := Option.map_eq_some_iff.mp hm'
    rw [TreeMap.isEmpty_map]
    exact h s' i' e' m hm
  · exact h s' i' e' m' hm'

/-! ## Cached values that are sent back -/

/-- Cached events are sent back if the flag is set. -/
lemma sendsBack_iff : subs.sendsBack x = true ↔ subs.flag x = some true := by
  unfold sendsBack EventSubscriptions.checkSendBackCachedEvent
  cases subs.flag x with
  | none => simp
  | some received =>
    cases received with
    | false => simp
    | true => simp

/-- A notification sets flags of subscriptions that cover it. -/
lemma Sets.event (h : subs.Sets groups s i e x) :
    x.event = e ∨ x.event = anyEvent ∧ x.eventgroup ∈ groups s i e :=
  h.2.2.2.imp_right fun hany => ⟨hany.2.1, List.mem_of_find?_eq_some hany.2.2⟩

/-- Which flags are set depends on the subscriptions alone. -/
lemma sets_congr {subs' : EventSubscriptions}
    (hsome : ∀ y, (subs'.flag y).isSome = (subs.flag y).isSome) :
    subs'.Sets groups s i e x ↔ subs.Sets groups s i e x := by
  simp only [Sets, hsome, ← Option.isSome_eq_false_iff, ← Option.isNone_iff_eq_none]

/-- `check_for_active_subscription` keeps the subscriptions. -/
lemma isSome_flag_checkForActiveSubscription (h : subs.Pruned) (groups : EventgroupsOf)
    (s i e : UInt16) (y : EventSubscription) :
    (flag (subs.checkForActiveSubscription groups s i e).2 y).isSome = (subs.flag y).isSome := by
  obtain ⟨hset, hkeep⟩ := flag_checkForActiveSubscription h groups s i e y
  by_cases hsets : subs.Sets groups s i e y
  · rw [hset hsets, hsets.2.2.1]
    rfl
  · rw [hkeep hsets]

/-- Values that are sent back one after another set the flags that each of them sets. -/
lemma flag_foldl (groups : EventgroupsOf) (s i : UInt16) (y : EventSubscription) :
    ∀ (sent : List UInt16) {subs : EventSubscriptions}, subs.Pruned →
      let subs' := sent.foldl (fun subs e => (subs.checkForActiveSubscription groups s i e).2) subs
      Pruned subs' ∧ ((∃ e ∈ sent, subs.Sets groups s i e y) → flag subs' y = some true) ∧
        ((∀ e ∈ sent, ¬ subs.Sets groups s i e y) → flag subs' y = subs.flag y)
  | [], subs, h => ⟨h, fun hex => by simp at hex, fun _ => rfl⟩
  | e :: sent, subs, h => by
    obtain ⟨hset, hkeep⟩ := flag_checkForActiveSubscription h groups s i e y
    have hcongr (e' : UInt16) : Sets (subs.checkForActiveSubscription groups s i e).2 groups s i e' y ↔
        subs.Sets groups s i e' y :=
      sets_congr (isSome_flag_checkForActiveSubscription h groups s i e)
    obtain ⟨hpruned, hset', hkeep'⟩ :=
      flag_foldl groups s i y sent (h.checkForActiveSubscription groups s i e)
    simp only [hcongr] at hset' hkeep'
    refine ⟨hpruned, fun hex => ?_, fun hno => ?_⟩
    · by_cases hlater : ∃ e' ∈ sent, subs.Sets groups s i e' y
      · exact hset' hlater
      · have hfirst : subs.Sets groups s i e y := by
          obtain ⟨e', he', hsets⟩ := hex
          rcases List.mem_cons.mp he' with rfl | he'
          · exact hsets
          · exact absurd ⟨e', he', hsets⟩ hlater
        exact (hkeep' fun e' he' hsets => hlater ⟨e', he', hsets⟩).trans (hset hfirst)
    · rw [List.forall_mem_cons] at hno
      exact (hkeep' hno.2).trans (hkeep hno.1)

end Flags

/-- The events whose cached values are sent back for a subscription. -/
def sent (x : EventSubscription) (cached : List UInt16) : List UInt16 :=
  if x.event = anyEvent then cached else if x.event ∈ cached then [x.event] else []

section Subscribe

variable {subs} {groups : EventgroupsOf} {x : EventSubscription} {cached : List UInt16}

/-- `subscribe` if nothing is sent back. -/
lemma subscribe_of_flag_ne (h : subs.flag x ≠ some true) :
    subs.subscribe groups x cached = (subs.checkSendBackCachedEvent x).2 := by
  have hfalse : (subs.checkSendBackCachedEvent x).1 = (false, false) := by
    unfold checkSendBackCachedEvent
    cases hflag : subs.flag x with
    | none => rfl
    | some received =>
      cases received with
      | false => rfl
      | true => exact absurd hflag h
  simp only [subscribe, hfalse]
  rfl

/-- `subscribe` if cached events are sent back. -/
lemma subscribe_of_flag_eq (h : subs.flag x = some true) : subs.subscribe groups x cached =
    (sent x cached).foldl
      (fun subs e => (subs.checkForActiveSubscription groups x.service x.inst e).2) subs := by
  simp only [subscribe, checkSendBackCachedEvent, h, sent]
  by_cases hany : x.event = anyEvent
  · simp [hany]
  · simp [hany]

/-- `subscribe` leaves no empty map. -/
lemma Pruned.subscribe (h : subs.Pruned) : Pruned (subs.subscribe groups x cached) := by
  by_cases hflag : subs.flag x = some true
  · rw [subscribe_of_flag_eq hflag]
    exact (flag_foldl groups _ _ x _ h).1
  · rw [subscribe_of_flag_ne hflag]
    exact h.checkSendBackCachedEvent x

/-- A subscription whose flag is not set is there afterwards, and nothing else changes. -/
lemma flag_subscribe_of_ne (hflag : subs.flag x ≠ some true) (y : EventSubscription) :
    flag (subs.subscribe groups x cached) y = if y = x then some false else subs.flag y := by
  have hfalse : (subs.flag x).getD false = false := by
    cases h : subs.flag x with
    | none => rfl
    | some received =>
      cases received with
      | false => rfl
      | true => exact absurd h hflag
  rw [subscribe_of_flag_ne hflag, flag_checkSendBackCachedEvent, hfalse]

/-- A subscription whose flag is set stays, and what is sent back sets flags. -/
lemma flag_subscribe_of_eq (h : subs.Pruned) (hflag : subs.flag x = some true) (groups : EventgroupsOf)
    (cached : List UInt16) (y : EventSubscription) :
    ((∃ e ∈ sent x cached, subs.Sets groups x.service x.inst e y) →
        flag (subs.subscribe groups x cached) y = some true) ∧
      ((∀ e ∈ sent x cached, ¬ subs.Sets groups x.service x.inst e y) →
        flag (subs.subscribe groups x cached) y = subs.flag y) := by
  rw [subscribe_of_flag_eq hflag]
  exact (flag_foldl groups _ _ y _ h).2

/-- A repeated subscription adds nothing, and no subscription gets lost. -/
lemma isSome_flag_subscribe (h : subs.Pruned) (y : EventSubscription) :
    (flag (subs.subscribe groups x cached) y).isSome ↔ y = x ∨ (subs.flag y).isSome := by
  by_cases hflag : subs.flag x = some true
  · have hx : y = x → (subs.flag y).isSome := fun heq => by rw [heq, hflag]; rfl
    obtain ⟨hset, hkeep⟩ := flag_subscribe_of_eq h hflag groups cached y
    rw [or_iff_right_of_imp hx]
    by_cases hsets : ∃ e ∈ sent x cached, subs.Sets groups x.service x.inst e y
    · obtain ⟨e, -, hsome⟩ := id hsets
      exact iff_of_true (by rw [hset hsets]; rfl) hsome.2.2.1
    · rw [hkeep fun e he hsome => hsets ⟨e, he, hsome⟩]
  · rw [flag_subscribe_of_ne hflag]
    split_ifs with heq
    · exact iff_of_true rfl (Or.inl heq)
    · exact (or_iff_right heq).symm

end Subscribe

end EventSubscriptions

end Vsomeip
