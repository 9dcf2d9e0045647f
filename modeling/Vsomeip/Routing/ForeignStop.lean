import Vsomeip.Routing.RoutingHost

set_option relaxedAutoImplicit false
set_option autoImplicit false

/-!
# Ends of offers by other clients

`on_stop_offer_service` compares the client with the one in `local_services_`, and erases the entry only
for that one. The other steps of `stop_offer_service` do not ask: the pending offer of the instance is
erased, the payloads and the subscribers of its events go, its endpoints are taken from it, the service
discovery stops its offer, and it is reported to be unavailable.

So every end of an offer has an effect, by whichever client: the report is the call of `on_availability`,
which `application_impl` drops for an instance that is not available to it. The tables are left as they
are only if there is nothing in them that could be stopped.

## Main definitions

* `Vsomeip.RoutingHost.TablesKept`, `Vsomeip.RoutingHost.Unchanged` — the end of an offer has no effect
  on the tables, and none at all.
* `Vsomeip.RoutingHost.Idle` — there is nothing to stop.

## Main results

* `Vsomeip.RoutingHost.not_unchanged_foreign` — what the end of an offer of another client does.
-/

namespace Vsomeip

open Function (update)

namespace Event

/-- The payload and the subscribers of an event are the same. -/
structure SameContents (ev ev' : Event) : Prop where
  payload : ev'.payload = ev.payload
  isSet : ev'.isSet = ev.isSet
  subscribers : ∀ g, ev'.getSubscribers g = ev.getSubscribers g

/-- An event without subscribers, and without a payload if it is provided. -/
structure Idle (ev : Event) : Prop where
  payload : ev.isProvided = true → ev.payload = [] ∧ ev.isSet = false
  subscribers : ∀ g, ev.getSubscribers g = ∅

/-- An event without subscribers. -/
lemma getSubscribers_clearSubscribers (ev : Event) (g : UInt16) :
    ev.clearSubscribers.getSubscribers g = ∅ := by
  rw [clearSubscribers, getSubscribers, Std.TreeMap.getD_eq_getD_getElem?, Std.TreeMap.getElem?_map]
  cases ev.eventgroups[g]? <;> rfl

/-- Nothing is unset of an event that is idle. -/
lemma Idle.unsetProvidedPayload_eq {ev : Event} (h : ev.Idle) : ev.unsetProvidedPayload = ev := by
  rw [unsetProvidedPayload]
  split
  · rename_i hprovided
    obtain ⟨hpayload, hset⟩ := h.payload hprovided
    rw [unsetPayload, ← hpayload, ← hset]
  · rfl

/-- The end of an offer leaves an event as it is exactly if it is idle. -/
lemma sameContents_stop_iff {ev : Event} :
    ev.SameContents ev.unsetProvidedPayload.clearSubscribers ↔ ev.Idle := by
  constructor
  · intro hsame
    refine ⟨fun hprovided => ?_, fun g => ?_⟩
    · have hunset : ev.unsetProvidedPayload = ev.unsetPayload := if_pos hprovided
      have hpayload := hsame.payload
      have hset := hsame.isSet
      rw [hunset] at hpayload hset
      exact ⟨hpayload.symm, hset.symm⟩
    · rw [← hsame.subscribers g]
      exact getSubscribers_clearSubscribers _ g
  · intro hidle
    rw [hidle.unsetProvidedPayload_eq]
    refine ⟨rfl, rfl, fun g => ?_⟩
    rw [getSubscribers_clearSubscribers, hidle.subscribers g]

end Event

/-! ## The tables of the offers -/

namespace LocalOffers

variable {cfg : OfferConfig} {s : LocalOffers} {k : InstanceKey} {client : UInt16} {version : Version}

/-- The tables of the offers are kept by the end of an offer by another client exactly if the instance has
no pending offer, and no service info or one without endpoints that the service discovery is to stop. -/
lemma kept_stopOfferService_iff (cfg : OfferConfig) (version : Version)
    (hforeign : ∀ v, s.localServices k ≠ some (v, client)) :
    let s' := s.stopOfferService cfg k client version
    (s'.localServices = s.localServices ∧ s'.pendingSdOffers = s.pendingSdOffers ∧
      s'.services = s.services ∧ s'.endpoints = s.endpoints ∧ s'.serviceInstances = s.serviceInstances) ↔
    k ∉ s.pendingSdOffers ∧ ∀ info, s.services k = some info →
      cfg.discovery = true ∧ ∀ reliable, info.endpoint reliable = none := by
  have hlocal := without_foreign hforeign
  dsimp only
  cases hk : s.services k with
  | none =>
    rw [stopOfferService_of_none client version hk, hlocal]
    simp [List.erase_eq_self_iff]
  | some info =>
    rw [stopOfferService_of_some client version hk, hlocal]
    by_cases hidle : cfg.discovery ∧ info.endpoint true = none ∧ info.endpoint false = none
    · obtain ⟨hdiscovery, hr, hu⟩ := hidle
      simp [hdiscovery, hr, hu, drop, List.erase_eq_self_iff]
    · have hchanged : update s.services k none ≠ s.services := fun h => by
        have hat := congrFun h k
        rw [Function.update_self, hk] at hat
        cases hat
      simp only [if_neg hidle, hchanged, false_and, and_false, false_iff, not_and]
      intro _ hall
      obtain ⟨hdiscovery, hnone⟩ := hall info rfl
      exact hidle ⟨hdiscovery, hnone true, hnone false⟩

end LocalOffers

namespace RoutingHost

/-- The tables that the end of an offer may change are the same: those of the offers, the pending offers,
and the payloads and subscribers of the events. -/
structure TablesKept (s s' : RoutingHost) : Prop extends SameOffers s s' where
  pendingSdOffers : s'.offers.pendingSdOffers = s.offers.pendingSdOffers
  events : ∀ k e, Option.Rel Event.SameContents (s.events k e) (s'.events k e)

/-- The end of an offer has no effect: the tables are kept, and nothing is reported. -/
structure Unchanged (s s' : RoutingHost) : Prop extends TablesKept s s' where
  reported : s'.reported = s.reported

/-- There is nothing of an instance that could be stopped: no pending offer, no payload and no subscriber
of an event, and no service info, or one without endpoints of which the service discovery knows nothing
or a version that is not stopped. -/
structure Idle (cfg : OfferConfig) (s : RoutingHost) (k : InstanceKey) (version : Version) : Prop where
  pending : k ∉ s.offers.pendingSdOffers
  events : ∀ e ev, s.events k e = some ev → ev.Idle
  discovery : ∀ info, s.offers.services k = some info → cfg.discovery = true
  endpoint : ∀ info, s.offers.services k = some info → ∀ reliable, info.endpoint reliable = none
  stopped : ∀ info, s.offers.services k = some info → info.version = version →
    s.ttl k = 0 ∧ s.discovery.stopOfferService (s.info k) = s.discovery

variable {cfg : OfferConfig} {s : RoutingHost} {k : InstanceKey} {client : UInt16} {version : Version}

/-- What the end of an offer does to the tables of the offers and to the events, and that it is reported,
do not depend on the service discovery. -/
lemma stopOfferService_spec (cfg : OfferConfig) (s : RoutingHost) (k : InstanceKey) (client : UInt16)
    (version : Version) :
    let s' := s.stopOfferService k cfg client version
    s'.offers = s.offers.stopOfferService cfg k client version ∧
      s'.events = (s.stopEvents k).events ∧
      ∃ calls, s'.reported = s.reported ++ calls ++ [⟨k, false, version⟩] := by
  rw [stopOfferService]
  dsimp only
  split
  · rw [stopDiscovery]
    split
    · exact ⟨rfl, rfl, [], by rw [List.append_nil]; rfl⟩
    · split <;> exact ⟨rfl, rfl, [], by rw [List.append_nil]; rfl⟩
  · rw [reportDeleted]
    split
    · exact ⟨rfl, rfl, [], by rw [List.append_nil]; rfl⟩
    · exact ⟨rfl, rfl, _, rfl⟩

/-- The events are kept exactly if those of the instance are idle. -/
lemma kept_events_iff :
    (∀ k' e, Option.Rel Event.SameContents (s.events k' e) ((s.stopEvents k).events k' e)) ↔
      ∀ e ev, s.events k e = some ev → ev.Idle := by
  constructor
  · intro hkept e ev hev
    have hrel := hkept k e
    rw [events_stopEvents_self, hev] at hrel
    cases hrel with
    | some hsame => exact Event.sameContents_stop_iff.mp hsame
  · intro hidle k' e
    by_cases hk' : k' = k
    · subst hk'
      rw [events_stopEvents_self]
      cases hev : s.events k' e with
      | none => exact .none
      | some ev => exact .some (Event.sameContents_stop_iff.mpr (hidle e ev hev))
    · rw [events_stopEvents_of_ne s hk']
      cases s.events k' e with
      | none => exact .none
      | some ev => exact .some ⟨rfl, rfl, fun _ => rfl⟩

/-- The service discovery is left alone exactly if there is nothing that it could be told to stop. -/
lemma kept_discovery_iff (client : UInt16) :
    let s' := s.stopOfferService k cfg client version
    (s'.ttl = s.ttl ∧ s'.discovery = s.discovery) ↔ (cfg.discovery = true →
      ∀ info, s.offers.services k = some info → info.version = version →
        s.ttl k = 0 ∧ s.discovery.stopOfferService (s.info k) = s.discovery) := by
  rw [stopOfferService]
  dsimp only
  by_cases hdiscovery : cfg.discovery = true
  · rw [if_pos hdiscovery, stopDiscovery]
    cases hk : s.offers.services k with
    | none =>
      have hk' : (s.stopEvents k).offers.services k = none := hk
      rw [hk']
      exact iff_of_true ⟨rfl, rfl⟩ fun _ info h => by cases h
    | some info =>
      have hk' : (s.stopEvents k).offers.services k = some info := hk
      rw [hk']
      dsimp only
      by_cases hversion : info.version = version
      · rw [if_pos hversion]
        have httl : update s.ttl k 0 = s.ttl ↔ s.ttl k = 0 :=
          Function.update_eq_self_iff.trans eq_comm
        constructor
        · rintro ⟨h, h'⟩ - info' - -
          exact ⟨httl.mp h, h'⟩
        · intro h
          obtain ⟨hzero, hstop⟩ := h hdiscovery info rfl hversion
          exact ⟨httl.mpr hzero, hstop⟩
      · rw [if_neg hversion]
        refine iff_of_true ⟨rfl, rfl⟩ fun _ info' h h' => ?_
        cases h
        exact absurd h' hversion
  · rw [if_neg hdiscovery, reportDeleted]
    refine iff_of_true ?_ fun h => absurd h hdiscovery
    split <;> exact ⟨rfl, rfl⟩

/-- The tables are kept exactly if there is nothing to stop. -/
lemma tablesKept_stopOfferService_iff (hforeign : ∀ v, s.offers.localServices k ≠ some (v, client)) :
    TablesKept s (s.stopOfferService k cfg client version) ↔ s.Idle cfg k version := by
  obtain ⟨hoffers, hevents, -⟩ := stopOfferService_spec cfg s k client version
  have hiff := LocalOffers.kept_stopOfferService_iff cfg version hforeign
  dsimp only at hiff
  rw [← hoffers] at hiff
  constructor
  · intro h
    obtain ⟨hpending, hinfo⟩ := hiff.mp
      ⟨h.localServices, h.pendingSdOffers, h.services, h.endpoints, h.serviceInstances⟩
    have hkept := h.events
    rw [hevents] at hkept
    exact
      { pending := hpending
        events := kept_events_iff.mp hkept
        discovery := fun info hk => (hinfo info hk).1
        endpoint := fun info hk => (hinfo info hk).2
        stopped := fun info hk =>
          (kept_discovery_iff client).mp ⟨h.ttl, h.discovery⟩ (hinfo info hk).1 info hk }
  · intro h
    obtain ⟨hlocal, hpending, hservices, hendpoints, hinstances⟩ := hiff.mpr
      ⟨h.pending, fun info hk => ⟨h.discovery info hk, h.endpoint info hk⟩⟩
    obtain ⟨httl, hdiscovery⟩ := (kept_discovery_iff client).mpr fun _ => h.stopped
    have hkept := kept_events_iff.mpr h.events
    rw [← hevents] at hkept
    exact ⟨⟨hlocal, hservices, httl, hendpoints, hinstances, hdiscovery⟩, hpending, hkept⟩

/-- **The end of an offer of another client** is never without an effect, since it is reported: `host_` is
called with `on_availability` in any case. An application for which the instance is not available drops
the call. The tables are as before exactly if there is nothing to stop. -/
theorem not_unchanged_foreign (cfg : OfferConfig) (s : RoutingHost) (k : InstanceKey) (client : UInt16)
    (version : Version) (hforeign : ∀ v, s.offers.localServices k ≠ some (v, client)) :
    ¬ Unchanged s (s.stopOfferService k cfg client version) ∧
      (TablesKept s (s.stopOfferService k cfg client version) ↔ s.Idle cfg k version) := by
  refine ⟨fun hunchanged => ?_, tablesKept_stopOfferService_iff hforeign⟩
  obtain ⟨-, -, calls, hreported⟩ := stopOfferService_spec cfg s k client version
  have hlength := congrArg List.length (hreported.symm.trans hunchanged.reported)
  rw [List.length_append, List.length_append, List.length_singleton] at hlength
  omega

/-! ## The offer of another client -/

/-- The client 0x101 offers instance 1 of service 1, with the network up. -/
def exampleOffer : RoutingHost :=
  { init (LocalOffers.onePort 30509) with
    takeover := (Takeover.init (LocalOffers.onePort 30509)).step (LocalOffers.onePort 30509)
      (.network true true)
  }.offerService (1, 1) (LocalOffers.onePort 30509) 0x101 ⟨1, 0⟩ ⟨false, false⟩

/-- It is the client that is recorded. -/
lemma localServices_example : exampleOffer.offers.localServices (1, 1) = some (⟨1, 0⟩, 0x101) := by
  decide

/-- The client of the example does not offer the instance. -/
lemma foreign_example (v : Version) : exampleOffer.offers.localServices (1, 1) ≠ some (v, 0x102) := by
  rw [localServices_example]
  rintro ⟨⟩

/-- The client 0x102 ends the offer. -/
theorem not_unchanged_foreign_example :
    ¬ Unchanged exampleOffer
      (exampleOffer.stopOfferService (1, 1) (LocalOffers.onePort 30509) 0x102 ⟨1, 0⟩) :=
  (not_unchanged_foreign (LocalOffers.onePort 30509) exampleOffer (1, 1) 0x102 ⟨1, 0⟩
    foreign_example).1

/-- **An end of an offer that is reported**, though it is the offer of another client, which stays in
`local_services_`. -/
theorem exists_changed_foreign : ¬ ∀ (cfg : OfferConfig) (s : RoutingHost) (k : InstanceKey)
    (client : UInt16) (version : Version), (∀ v, s.offers.localServices k ≠ some (v, client)) →
    Unchanged s (s.stopOfferService k cfg client version) := by
  intro h
  have hreported := (h (LocalOffers.onePort 30509) exampleOffer (1, 1) 0x102 ⟨1, 0⟩ foreign_example).reported
  exact absurd hreported (by decide)

end RoutingHost

end Vsomeip
