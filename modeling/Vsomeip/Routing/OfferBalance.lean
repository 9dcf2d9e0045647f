import Mathlib.Data.Finset.Card
import Mathlib.Data.List.Nodup
import Vsomeip.Lib.Runs
import Vsomeip.Routing.OfferService
import Vsomeip.Routing.RoutingView

set_option relaxedAutoImplicit false
set_option autoImplicit false

/-!
# Offers and ends of offers are balanced

An offer that is stopped by the same client should leave nothing behind. It leaves its service info in
`services_` if there is a service discovery and the instance had no endpoint: `on_stop_offer_service`
clears the info in the loop over the endpoints only. Later offers of the instance in another version
and remote offers of it are then rejected.

It also leaves something behind after a run in which an instance was taken over from another client,
which enters it a second time in `pending_sd_offers_` or at its endpoints, or in which a client has
deregistered whose instance waited for the network, or was not in `routing_info_`: the deregistration
does not look at `pending_sd_offers_`, and ends the offers of `routing_info_` only.

## Main definitions

* `Vsomeip.LocalOffers.Balanced` — an instance is in none of the tables, can be offered again, and the
  endpoints are counted and stopped as they should.
* `Vsomeip.LocalOffers.Regular` — the events of which a run may consist.

## Main results

* `Vsomeip.LocalOffers.balanced_iff` — after an accepted offer, other events and the end of the offer
  everything is balanced exactly if there is no service discovery or the instance had an endpoint.
* `Vsomeip.LocalOffers.not_balanced_internal` — an instance without ports, and runs that leave an
  instance in `pending_sd_offers_`.
-/

namespace Vsomeip.LocalOffers

open Std (TreeMap)

variable {cfg : OfferConfig} {s s' : LocalOffers} {k k' : InstanceKey} {reliable : Bool} {e : ℕ}

/-- The service info of an instance has an endpoint. -/
def Uses (s : LocalOffers) (k : InstanceKey) (reliable : Bool) (e : ℕ) : Prop :=
  ∃ info, s.services k = some info ∧ info.endpoint reliable = some e

/-- Two instances of a service do not have the same port. -/
def NoSharedPort (cfg : OfferConfig) : Prop :=
  ∀ ⦃service i j : UInt16⦄ ⦃reliable : Bool⦄, cfg.port (service, i) reliable ≠ illegalPort →
    cfg.port (service, i) reliable = cfg.port (service, j) reliable → i = j

/-! ## The endpoints -/

/-- The tables of the endpoints agree with the service infos. -/
structure Wired (cfg : OfferConfig) (s : LocalOffers) : Prop where
  uses : ∀ ⦃k : InstanceKey⦄ ⦃reliable : Bool⦄ ⦃e : ℕ⦄, s.Uses k reliable e →
    cfg.port k reliable ≠ illegalPort ∧ s.serverEndpoints (cfg.port k reliable) reliable = some e
  server : ∀ ⦃port : UInt16⦄ ⦃reliable : Bool⦄ ⦃e : ℕ⦄, s.serverEndpoints port reliable = some e →
    e < s.nextEndpoint ∧ (s.endpoints e).localPort = port ∧ (s.endpoints e).isReliable = reliable
  count : ∀ e, ∃ users : Finset InstanceKey, users.card = (s.endpoints e).useCount ∧
    ∀ k, k ∈ users ↔ ∃ reliable, s.Uses k reliable e
  instances : ∀ {service i : UInt16} {e : ℕ},
    (e, i) ∈ s.serviceInstances service ↔ ∃ reliable, s.Uses (service, i) reliable e

/-- An endpoint is in `server_endpoints_` only while it is used, and stopped when it is not. -/
structure Counted (cfg : OfferConfig) (s : LocalOffers) : Prop extends Wired cfg s where
  inUse : ∀ ⦃port : UInt16⦄ ⦃reliable : Bool⦄ ⦃e : ℕ⦄, s.serverEndpoints port reliable = some e →
    (s.endpoints e).useCount ≠ 0
  stopped : ∀ ⦃e : ℕ⦄, e < s.nextEndpoint → (s.endpoints e).useCount = 0 →
    (s.endpoints e).isStopped = true

/-- The invariant depends on the services only in the endpoints that they use. -/
lemma Counted.congr (hs : Counted cfg s) (hendpoints : s'.endpoints = s.endpoints)
    (hnext : s'.nextEndpoint = s.nextEndpoint) (hserver : s'.serverEndpoints = s.serverEndpoints)
    (hinstances : s'.serviceInstances = s.serviceInstances)
    (huses : ∀ {k reliable e}, s'.Uses k reliable e ↔ s.Uses k reliable e) : Counted cfg s' where
  uses k reliable e h := by
    rw [hserver]
    exact hs.uses (huses.mp h)
  server port reliable e h := by
    rw [hserver] at h
    rw [hnext, hendpoints]
    exact hs.server h
  count e := by
    obtain ⟨users, hcard, hmem⟩ := hs.count e
    refine ⟨users, by rw [hcard, hendpoints], fun k => ?_⟩
    rw [hmem]
    exact exists_congr fun _ => huses.symm
  inUse port reliable e h := by
    rw [hserver] at h
    rw [hendpoints]
    exact hs.inUse h
  stopped e he h := by
    rw [hnext] at he
    rw [hendpoints] at h ⊢
    exact hs.stopped he h
  instances := by
    intro service i e
    rw [hinstances, hs.instances]
    exact exists_congr fun _ => huses.symm

/-- An endpoint is used as a reliable one or as an unreliable one, on its port. -/
lemma Wired.same (hs : Wired cfg s) {port : UInt16} (h : s.serverEndpoints port reliable = some e)
    {reliable' : Bool} (h' : s.Uses k reliable' e) :
    reliable' = reliable ∧ cfg.port k reliable' = port := by
  obtain ⟨-, hport, hreliable⟩ := hs.server h
  obtain ⟨-, hport', hreliable'⟩ := hs.server (hs.uses h').2
  exact ⟨hreliable'.symm.trans hreliable, hport'.symm.trans hport⟩

/-- An instance whose service info has no endpoint uses none. -/
lemma not_uses_of_none {info : ServiceInfo} (hk : s.services k = some info)
    (hnone : info.endpoint reliable = none) : ¬ s.Uses k reliable e := by
  rintro ⟨info', hk', he⟩
  rw [hk, Option.some.injEq] at hk'
  rw [← hk', hnone] at he
  cases he

/-- The endpoints in use after one is attached. -/
lemma uses_attach {info : ServiceInfo} (hk : s.services k = some info) {k' : InstanceKey}
    {reliable' : Bool} {e' : ℕ} :
    (s.attach k e reliable).Uses k' reliable' e' ↔
      if k' = k ∧ reliable' = reliable then e' = e else s.Uses k' reliable' e' := by
  simp only [Uses, attach]
  by_cases hk' : k' = k
  · subst hk'
    by_cases hr : reliable' = reliable
    · subst hr
      simp [hk, ServiceInfo.setEndpoint, eq_comm]
    · simp [hk, ServiceInfo.setEndpoint, hr]
  · simp [hk']

/-- The instances at an endpoint after one more is attached to it. -/
lemma exists_uses_attach {info : ServiceInfo} (hk : s.services k = some info)
    (hnone : info.endpoint reliable = none) {k' : InstanceKey} {e' : ℕ} :
    (∃ reliable', (s.attach k e reliable).Uses k' reliable' e') ↔
      (k' = k ∧ e' = e) ∨ ∃ reliable', s.Uses k' reliable' e' := by
  constructor
  · rintro ⟨reliable', h⟩
    rw [uses_attach hk] at h
    split at h
    · rename_i heq
      exact .inl ⟨heq.1, h⟩
    · exact .inr ⟨reliable', h⟩
  · rintro (⟨rfl, rfl⟩ | ⟨reliable', h⟩)
    · exact ⟨reliable, by simp [uses_attach hk]⟩
    · refine ⟨reliable', ?_⟩
      rw [uses_attach hk, if_neg]
      · exact h
      · rintro ⟨rfl, rfl⟩
        exact not_uses_of_none hk hnone h

/-- An instance that does not use the endpoint of its port does not use it as the other one of its two
either. -/
lemma Wired.not_uses_server (hs : Wired cfg s) {info : ServiceInfo} (hk : s.services k = some info)
    (hnone : info.endpoint reliable = none)
    (hserver : s.serverEndpoints (cfg.port k reliable) reliable = some e) (reliable' : Bool) :
    ¬ s.Uses k reliable' e := by
  intro h
  obtain ⟨rfl, -⟩ := hs.same hserver h
  exact not_uses_of_none hk hnone h

/-- The endpoint that an instance begins to use has one more user. -/
lemma Wired.count_attach (hs : Wired cfg s) {info : ServiceInfo} (hk : s.services k = some info)
    (hnone : info.endpoint reliable = none)
    (hserver : s.serverEndpoints (cfg.port k reliable) reliable = some e) (e' : ℕ) :
    ∃ users : Finset InstanceKey,
      users.card = ((s.attach k e reliable).endpoints e').useCount ∧
        ∀ k', k' ∈ users ↔ ∃ reliable', (s.attach k e reliable).Uses k' reliable' e' := by
  obtain ⟨users, hcard, hmem⟩ := hs.count e'
  by_cases he : e' = e
  · subst he
    have hnot : k ∉ users := fun h => by
      obtain ⟨reliable', h'⟩ := (hmem k).mp h
      exact hs.not_uses_server hk hnone hserver reliable' h'
    refine ⟨insert k users, ?_, fun k' => ?_⟩
    · simp [LocalOffers.attach, Finset.card_insert_of_notMem hnot, hcard]
    · rw [Finset.mem_insert, hmem, exists_uses_attach hk hnone]
      simp
  · refine ⟨users, ?_, fun k' => ?_⟩
    · simp [LocalOffers.attach, he, hcard]
    · rw [hmem, exists_uses_attach hk hnone]
      simp [he]

/-- `service_instances_` has the endpoint that an instance begins to use. -/
lemma Wired.instances_attach (hs : Wired cfg s) (hports : NoSharedPort cfg) {info : ServiceInfo}
    (hk : s.services k = some info) (hnone : info.endpoint reliable = none)
    (hserver : s.serverEndpoints (cfg.port k reliable) reliable = some e) {service i : UInt16}
    {e' : ℕ} : (e', i) ∈ (s.attach k e reliable).serviceInstances service ↔
      ∃ reliable', (s.attach k e reliable).Uses (service, i) reliable' e' := by
  rw [exists_uses_attach hk hnone]
  have hold : (e', i) ∈ s.serviceInstances service ↔ ∃ reliable', s.Uses (service, i) reliable' e' :=
    hs.instances
  by_cases hservice : service = k.1
  · subst hservice
    simp only [LocalOffers.attach, Function.update_self, List.mem_append, List.mem_filter,
      decide_eq_true_eq, List.mem_singleton, Prod.mk.injEq, hold]
    constructor
    · rintro (⟨h, -⟩ | ⟨rfl, rfl⟩)
      · exact .inr h
      · exact .inl ⟨rfl, rfl⟩
    · rintro (⟨heq, rfl⟩ | ⟨reliable', h⟩)
      · exact .inr ⟨rfl, congrArg Prod.snd heq⟩
      · by_cases he : e' = e
        · -- another instance of the service would share the port
          subst he
          obtain ⟨rfl, heq⟩ := hs.same hserver h
          obtain rfl : i = k.2 := hports (hs.uses h).1 heq
          exact absurd h (hs.not_uses_server hk hnone hserver reliable')
        · exact .inl ⟨⟨reliable', h⟩, he⟩
  · have hne : (service, i) ≠ k := fun h => hservice (congrArg Prod.fst h)
    simp [LocalOffers.attach, hservice, hold, hne]

/-- An instance that does not use the endpoint of its port begins to use it. -/
lemma Wired.attach (hs : Wired cfg s) (hports : NoSharedPort cfg) {info : ServiceInfo}
    (hk : s.services k = some info) (hnone : info.endpoint reliable = none)
    (hport : cfg.port k reliable ≠ illegalPort)
    (hserver : s.serverEndpoints (cfg.port k reliable) reliable = some e) :
    Wired cfg (s.attach k e reliable) where
  uses k' reliable' e' h := by
    rw [uses_attach hk] at h
    split at h
    · rename_i heq
      obtain ⟨rfl, rfl⟩ := heq
      subst h
      exact ⟨hport, hserver⟩
    · exact hs.uses h
  server port reliable' e' h := by
    obtain ⟨hlt, hlocal, hreliable⟩ := hs.server h
    refine ⟨hlt, ?_⟩
    by_cases he : e' = e
    · subst he
      simpa [LocalOffers.attach] using ⟨hlocal, hreliable⟩
    · simpa [LocalOffers.attach, he] using ⟨hlocal, hreliable⟩
  count := hs.count_attach hk hnone hserver
  instances := hs.instances_attach hports hk hnone hserver

/-- A new endpoint is used by no instance yet. -/
lemma Wired.create (hs : Wired cfg s) {port : UInt16} (hnone : s.serverEndpoints port reliable = none)
    (hopens : cfg.opens s.attempts) :
    Wired cfg (s.createServerEndpoint cfg port reliable).1 := by
  rw [createServerEndpoint, if_pos hopens]
  refine ⟨fun k' reliable' e' h => ?_, fun port' reliable' e' h => ?_, fun e' => ?_, hs.instances⟩
  · obtain ⟨hport, hserver⟩ := hs.uses h
    refine ⟨hport, ?_⟩
    by_cases hp : cfg.port k' reliable' = port
    · by_cases hr : reliable' = reliable
      · rw [hp, hr, hnone] at hserver
        cases hserver
      · rw [hp] at hserver ⊢
        simp [hr, hserver]
    · simp [hp, hserver]
  · have hcases : (port' = port ∧ reliable' = reliable ∧ e' = s.nextEndpoint) ∨
        s.serverEndpoints port' reliable' = some e' := by
      by_cases hp : port' = port
      · subst hp
        by_cases hr : reliable' = reliable
        · subst hr
          simp only [Function.update_self, Option.some.injEq] at h
          exact .inl ⟨rfl, rfl, h.symm⟩
        · simp only [Function.update_self, Function.update_of_ne hr] at h
          exact .inr h
      · simp only [Function.update_of_ne hp] at h
        exact .inr h
    rcases hcases with ⟨rfl, rfl, rfl⟩ | h
    · simp
    · obtain ⟨hlt, hlocal, hreliable⟩ := hs.server h
      have hne : e' ≠ s.nextEndpoint := Nat.ne_of_lt hlt
      simpa [hne, hlocal, hreliable] using Nat.lt_succ_of_lt hlt
  · by_cases he : e' = s.nextEndpoint
    · subst he
      refine ⟨∅, by simp, fun k' => ?_⟩
      refine iff_of_false (by simp) ?_
      rintro ⟨reliable', h⟩
      exact Nat.lt_irrefl _ (hs.server (hs.uses h).2).1
    · obtain ⟨users, hcard, hmem⟩ := hs.count e'
      exact ⟨users, by simp [he, hcard], hmem⟩

/-- The version of the service info of an instance, and whether it is a local one. -/
def kind (s : LocalOffers) (k : InstanceKey) : Option (Version × Bool) :=
  (s.services k).map fun info => (info.version, info.isLocal)

/-- From a state to a later one endpoints have been opened for an instance, and nothing else has
changed. -/
structure Opens (k : InstanceKey) (s s' : LocalOffers) : Prop where
  localServices : s'.localServices = s.localServices
  pendingSdOffers : s'.pendingSdOffers = s.pendingSdOffers
  stub : s'.stub = s.stub
  kind : s'.kind = s.kind
  services : ∀ ⦃k' : InstanceKey⦄, k' ≠ k → s'.services k' = s.services k'

/-- Nothing is opened. -/
lemma Opens.refl (k : InstanceKey) (s : LocalOffers) : Opens k s s :=
  ⟨rfl, rfl, rfl, rfl, fun _ _ => rfl⟩

/-- What is opened one after the other is opened. -/
lemma Opens.trans {s'' : LocalOffers} (h : Opens k s s') (h' : Opens k s' s'') : Opens k s s'' :=
  ⟨h'.localServices.trans h.localServices, h'.pendingSdOffers.trans h.pendingSdOffers,
    h'.stub.trans h.stub, h'.kind.trans h.kind, fun _ hk => (h'.services hk).trans (h.services hk)⟩

/-- Other instances use the endpoints that they used. -/
lemma Opens.uses_iff (h : Opens k s s') (hk : k' ≠ k) :
    s'.Uses k' reliable e ↔ s.Uses k' reliable e := by
  rw [Uses, h.services hk, Uses]

/-- Attaching an endpoint opens it for one instance. -/
lemma opens_attach (k : InstanceKey) (s : LocalOffers) (e : ℕ) (reliable : Bool) :
    Opens k s (s.attach k e reliable) := by
  refine ⟨rfl, rfl, rfl, ?_, fun k' hk' => by simp [LocalOffers.attach, hk']⟩
  funext k'
  by_cases hk' : k' = k
  · subst hk'
    simp only [kind, LocalOffers.attach, Function.update_self, Option.map_map]
    rfl
  · simp [kind, LocalOffers.attach, hk']

/-- A server endpoint that is created is in no service info. -/
lemma services_create (cfg : OfferConfig) (s : LocalOffers) (port : UInt16) (reliable : Bool) :
    (s.createServerEndpoint cfg port reliable).1.services = s.services := by
  rw [createServerEndpoint]
  split <;> rfl

/-- A server endpoint is created for one instance. -/
lemma opens_create (cfg : OfferConfig) (k : InstanceKey) (s : LocalOffers) (port : UInt16)
    (reliable : Bool) : Opens k s (s.createServerEndpoint cfg port reliable).1 := by
  have hservices := services_create cfg s port reliable
  refine ⟨?_, ?_, ?_, by unfold kind; rw [hservices], fun k' _ => by rw [hservices]⟩
  all_goals
    rw [createServerEndpoint]
    split <;> rfl

/-- What becomes of an instance when one of its endpoints is opened. -/
lemma initEndpoint_spec (cfg : OfferConfig) (s : LocalOffers) (k : InstanceKey) (reliable : Bool) :
    Opens k s (s.initEndpoint cfg k reliable) ∧ ∀ {info}, s.services k = some info →
      ∃ info', (s.initEndpoint cfg k reliable).services k = some info' ∧
        info'.endpoint (!reliable) = info.endpoint (!reliable) := by
  rw [LocalOffers.initEndpoint]
  split
  · exact ⟨.refl k s, fun {info} h => ⟨info, h, rfl⟩⟩
  · rw [findOrCreateServerEndpoint]
    have hattach (t : LocalOffers) (e : ℕ) {info : ServiceInfo} (h : t.services k = some info) :
        ∃ info', (t.attach k e reliable).services k = some info' ∧
          info'.endpoint (!reliable) = info.endpoint (!reliable) :=
      ⟨info.setEndpoint (some e) reliable, by simp [LocalOffers.attach, h],
        by simp [ServiceInfo.setEndpoint]⟩
    cases hserver : s.serverEndpoints (cfg.port k reliable) reliable with
    | some e => exact ⟨opens_attach k s e reliable, fun h => hattach s e h⟩
    | none =>
      have hservices := services_create cfg s (cfg.port k reliable) reliable
      have hopens := opens_create cfg k s (cfg.port k reliable) reliable
      generalize s.createServerEndpoint cfg (cfg.port k reliable) reliable = x at *
      obtain ⟨t, e | e⟩ := x
      · exact ⟨hopens, fun {info} h => ⟨info, by rw [hservices, h], rfl⟩⟩
      · exact ⟨hopens.trans (opens_attach k t e reliable), fun h => hattach t e (by rw [hservices, h])⟩

/-- `init_service_info` opens endpoints of one instance. -/
lemma opens_initServiceInfo (cfg : OfferConfig) (s : LocalOffers) (k : InstanceKey) :
    Opens k s (s.initServiceInfo cfg k) := by
  rw [initServiceInfo]
  split
  · exact .refl k s
  · exact (initEndpoint_spec cfg s k true).1.trans (initEndpoint_spec cfg _ k false).1

/-- The endpoint of one of the two ports is found or opened. -/
lemma Counted.initEndpoint (hs : Counted cfg s) (hports : NoSharedPort cfg) {info : ServiceInfo}
    (hk : s.services k = some info) (hnone : info.endpoint reliable = none) :
    Counted cfg (s.initEndpoint cfg k reliable) := by
  rw [LocalOffers.initEndpoint]
  split
  · exact hs
  · rename_i hport
    rw [findOrCreateServerEndpoint]
    cases hserver : s.serverEndpoints (cfg.port k reliable) reliable with
    | some e =>
      refine ⟨hs.toWired.attach hports hk hnone hport hserver, fun port reliable' e' h => ?_,
        fun e' hlt h => ?_⟩
      · by_cases he : e' = e
        · simp [LocalOffers.attach, he]
        · simpa [LocalOffers.attach, he] using hs.inUse h
      · by_cases he : e' = e
        · simp [LocalOffers.attach, he] at h
        · simp only [LocalOffers.attach, Function.update_of_ne he] at h ⊢
          exact hs.stopped hlt h
    | none =>
      by_cases hopens : cfg.opens s.attempts
      · have hwired := hs.toWired.create hserver hopens
        have hservices := services_create cfg s (cfg.port k reliable) reliable
        rw [← hservices] at hk
        rw [createServerEndpoint, if_pos hopens] at hwired hk ⊢
        refine ⟨hwired.attach hports hk hnone hport (by simp), fun port reliable' e' h => ?_,
          fun e' hlt h => ?_⟩
        · by_cases he : e' = s.nextEndpoint
          · simp [LocalOffers.attach, he]
          · have hold : s.serverEndpoints port reliable' = some e' := by
              simp only [LocalOffers.attach] at h
              by_cases hp : port = cfg.port k reliable
              · subst hp
                by_cases hr : reliable' = reliable
                · subst hr
                  simp only [Function.update_self, Option.some.injEq] at h
                  exact absurd h.symm he
                · simpa [hr] using h
              · simpa [hp] using h
            simpa [LocalOffers.attach, he] using hs.inUse hold
        · by_cases he : e' = s.nextEndpoint
          · simp [LocalOffers.attach, he] at h
          · simp only [LocalOffers.attach, Function.update_of_ne he] at hlt h ⊢
            exact hs.stopped (by omega) h
      · rw [createServerEndpoint, if_neg hopens]
        exact hs.congr rfl rfl rfl rfl Iff.rfl

/-- The endpoints of an instance that uses none are opened. -/
lemma Counted.initServiceInfo (hs : Counted cfg s) (hports : NoSharedPort cfg)
    (hfree : ∀ reliable e, ¬ s.Uses k reliable e) : Counted cfg (s.initServiceInfo cfg k) := by
  rw [LocalOffers.initServiceInfo]
  cases hk : s.services k with
  | none => exact hs
  | some info =>
    have hnone (reliable : Bool) : info.endpoint reliable = none := by
      rw [Option.eq_none_iff_forall_ne_some]
      exact fun e he => hfree reliable e ⟨info, hk, he⟩
    obtain ⟨info', hk', hother⟩ := (initEndpoint_spec cfg s k true).2 hk
    exact (hs.initEndpoint hports hk (hnone true)).initEndpoint hports hk' (hother.trans (hnone false))

/-! ## The tables -/

/-- The tables agree on what is offered: all service infos are local, and an instance that uses an
endpoint is offered. -/
structure Agrees (s : LocalOffers) : Prop where
  isLocal : ∀ ⦃k : InstanceKey⦄ ⦃v : Version⦄ ⦃b : Bool⦄, s.kind k = some (v, b) → b = true
  offered : ∀ ⦃k : InstanceKey⦄ ⦃reliable : Bool⦄ ⦃e : ℕ⦄, s.Uses k reliable e →
    (s.localServices k).isSome

/-- Endpoints that are opened for an offered instance keep the tables in agreement. -/
lemma Agrees.opens (hs : s.Agrees) (h : Opens k s s') (hk : (s.localServices k).isSome) :
    s'.Agrees := by
  refine ⟨?_, fun k' reliable e huses => ?_⟩
  · rw [h.kind]
    exact hs.isLocal
  · rw [h.localServices]
    by_cases hk' : k' = k
    · rwa [hk']
    · exact hs.offered ((h.uses_iff hk').mp huses)

/-- What holds of the routing manager in every run. -/
structure Inv (cfg : OfferConfig) (s : LocalOffers) : Prop extends Counted cfg s, Agrees s where
  pending : ∀ ⦃k : InstanceKey⦄, k ∈ s.pendingSdOffers →
    (s.localServices k).isSome ∧ ∀ reliable e, ¬ s.Uses k reliable e
  nodup : s.pendingSdOffers.Nodup

/-- At the start no endpoint is used. -/
lemma not_uses_init : ¬ (init cfg).Uses k reliable e := by
  rintro ⟨info, h, -⟩
  cases h

/-- The invariant holds at the start. -/
lemma inv_init : Inv cfg (init cfg) where
  uses _ _ _ h := absurd h not_uses_init
  server _ _ _ h := by cases h
  count e := ⟨∅, rfl, fun k => iff_of_false (by simp) fun ⟨_, h⟩ => not_uses_init h⟩
  instances := iff_of_false (by simp [init]) fun ⟨_, h⟩ => not_uses_init h
  inUse _ _ _ h := by cases h
  stopped e he := absurd he (Nat.not_lt_zero e)
  isLocal _ _ _ h := by cases h
  offered _ _ _ h := absurd h not_uses_init
  pending k h := by simp [init] at h
  nodup := List.nodup_nil

/-- The loop of `start_ip_routing`. -/
lemma foldl_initServiceInfo_spec (hports : NoSharedPort cfg) :
    ∀ {l : List InstanceKey} {s : LocalOffers}, Counted cfg s → s.Agrees → l.Nodup →
      (∀ k ∈ l, (s.localServices k).isSome ∧ ∀ reliable e, ¬ s.Uses k reliable e) →
      let s' := l.foldl (fun s k => s.initServiceInfo cfg k) s
      Counted cfg s' ∧ s'.Agrees ∧ s'.localServices = s.localServices ∧ s'.stub = s.stub ∧
        s'.kind = s.kind
  | [], _, hcounted, hagrees, _, _ => ⟨hcounted, hagrees, rfl, rfl, rfl⟩
  | k :: l, s, hcounted, hagrees, hnodup, hl => by
    obtain ⟨hk, hrest⟩ := List.forall_mem_cons.mp hl
    obtain ⟨hnot, hnodup⟩ := List.nodup_cons.mp hnodup
    have hopens := opens_initServiceInfo cfg s k
    have hrest' : ∀ k' ∈ l, ((s.initServiceInfo cfg k).localServices k').isSome ∧
        ∀ reliable e, ¬ (s.initServiceInfo cfg k).Uses k' reliable e := by
      intro k' hk'
      have hne : k' ≠ k := by
        rintro rfl
        exact hnot hk'
      rw [hopens.localServices]
      exact ⟨(hrest k' hk').1, fun reliable e h => (hrest k' hk').2 reliable e
        ((hopens.uses_iff hne).mp h)⟩
    obtain ⟨hcounted', hagrees', hlocal, hstub, hkind⟩ := foldl_initServiceInfo_spec hports
      (hcounted.initServiceInfo hports hk.2) (hagrees.opens hopens hk.1) hnodup hrest'
    exact ⟨hcounted', hagrees', hlocal.trans hopens.localServices, hstub.trans hopens.stub,
      hkind.trans hopens.kind⟩

/-- The start of the network keeps the invariant, the offers, the clients' view and the versions. -/
lemma Inv.startIpRouting (hs : Inv cfg s) (hports : NoSharedPort cfg) :
    Inv cfg (s.startIpRouting cfg) ∧ (s.startIpRouting cfg).localServices = s.localServices ∧
      (s.startIpRouting cfg).stub = s.stub ∧ (s.startIpRouting cfg).kind = s.kind := by
  obtain ⟨hcounted, hagrees, hlocal, hstub, hkind⟩ :=
    foldl_initServiceInfo_spec hports hs.toCounted hs.toAgrees hs.nodup hs.pending
  rw [LocalOffers.startIpRouting]
  refine ⟨⟨hcounted.congr rfl rfl rfl rfl Iff.rfl, ⟨hagrees.isLocal, hagrees.offered⟩,
    fun k h => ?_, List.nodup_nil⟩, hlocal, hstub, hkind⟩
  simp at h

/-- A change of the network interface or of the route. -/
lemma Inv.network (hs : Inv cfg s) (hports : NoSharedPort cfg) (isInterface available : Bool) :
    Inv cfg (s.onNetInterfaceOrRouteStateChanged cfg isInterface available) ∧
      (s.onNetInterfaceOrRouteStateChanged cfg isInterface available).localServices =
        s.localServices ∧
      (s.onNetInterfaceOrRouteStateChanged cfg isInterface available).stub = s.stub ∧
      (s.onNetInterfaceOrRouteStateChanged cfg isInterface available).kind = s.kind := by
  have hcounted : Counted cfg s := hs.toCounted
  rw [onNetInterfaceOrRouteStateChanged]
  split
  · split
    · have hup : Inv cfg { s with ifStateRunning := true } :=
        ⟨hcounted.congr rfl rfl rfl rfl Iff.rfl, ⟨hs.isLocal, hs.offered⟩, hs.pending,
          hs.nodup⟩
      dsimp only
      split
      · exact hup.startIpRouting hports
      · exact ⟨hup, rfl, rfl, rfl⟩
    · exact ⟨hs, rfl, rfl, rfl⟩
  · split
    · have hset : Inv cfg { s with sdRouteSet := true } :=
        ⟨hcounted.congr rfl rfl rfl rfl Iff.rfl, ⟨hs.isLocal, hs.offered⟩, hs.pending,
          hs.nodup⟩
      dsimp only
      split
      · exact hset.startIpRouting hports
      · exact ⟨hset, rfl, rfl, rfl⟩
    · exact ⟨hs, rfl, rfl, rfl⟩

/-! ## Offers -/

variable {client : UInt16} {version : Version} {unreachable : Bool}

/-- An offer of an instance that is unknown. -/
lemma handleLocalOfferService_of_none (hnone : s.localServices k = none)
    (hk : s.services k = none) :
    s.handleLocalOfferService k client version unreachable =
      ({ s with
          services := Function.update s.services k (some ⟨version, true, fun _ => none⟩)
          localServices := Function.update s.localServices k (some (version, client)) }, true) := by
  simp only [handleLocalOfferService, hnone, baseOfferService, hk, if_true]

/-- An offer of an instance that is known but not offered by a client. -/
lemma handleLocalOfferService_of_some (hnone : s.localServices k = none) {info : ServiceInfo}
    (hk : s.services k = some info) :
    s.handleLocalOfferService k client version unreachable =
      if info.isLocal && info.version == version then
        ({ s with
            localServices := Function.update s.localServices k (some (version, client)) }, true)
      else (s, false) := by
  simp only [handleLocalOfferService, hnone, baseOfferService, hk]

/-- An instance that is not offered is accepted exactly if it has no service info or one of the same
version; then it is offered. -/
lemma handleLocalOfferService_spec (client : UInt16) (version : Version) (unreachable : Bool)
    (hs : Inv cfg s) (hnone : s.localServices k = none) :
    let x := s.handleLocalOfferService k client version unreachable
    (x.2 = true ↔ ∀ v b, s.kind k = some (v, b) → v = version) ∧ (x.2 = false → x.1 = s) ∧
      (x.2 = true → x.1.localServices = Function.update s.localServices k (some (version, client)) ∧
        x.1.pendingSdOffers = s.pendingSdOffers ∧ x.1.stub = s.stub ∧
        x.1.kind = Function.update s.kind k (some (version, true)) ∧
        (∀ {k' reliable e}, x.1.Uses k' reliable e ↔ s.Uses k' reliable e) ∧ Counted cfg x.1) := by
  have hcounted : Counted cfg s := hs.toCounted
  cases hk : s.services k with
  | none =>
    rw [handleLocalOfferService_of_none hnone hk]
    have hkind : s.kind k = none := by simp [kind, hk]
    have huses {k' : InstanceKey} {reliable : Bool} {e : ℕ} :
        Uses { s with
          services := Function.update s.services k (some ⟨version, true, fun _ => none⟩)
          localServices := Function.update s.localServices k (some (version, client)) } k' reliable e ↔
        s.Uses k' reliable e := by
      by_cases hk' : k' = k
      · subst hk'
        simp [Uses, hk]
      · simp [Uses, hk']
    refine ⟨by simp [hkind], by simp, fun _ => ⟨rfl, rfl, rfl, ?_, huses,
      hcounted.congr rfl rfl rfl rfl huses⟩⟩
    funext k'
    by_cases hk' : k' = k
    · simp [kind, hk']
    · simp [kind, hk']
  | some info =>
    rw [handleLocalOfferService_of_some hnone hk]
    have hkind : s.kind k = some (info.version, info.isLocal) := by simp [kind, hk]
    have hlocal : info.isLocal = true := hs.isLocal hkind
    by_cases hv : info.version = version
    · have hself : s.kind = Function.update s.kind k (some (version, true)) := by
        rw [← hv, ← hlocal, ← hkind, Function.update_eq_self]
      have htrue : (info.isLocal && info.version == version) = true := by simp [hlocal, hv]
      rw [if_pos htrue]
      exact ⟨by simp [hkind, hv], by simp,
        fun _ => ⟨rfl, rfl, rfl, hself, Iff.rfl, hcounted.congr rfl rfl rfl rfl Iff.rfl⟩⟩
    · have hfalse : (info.version == version) = false := by simp [hv]
      simp [hkind, hv, hlocal, hfalse]

/-- The routing manager after `handle_local_offer_service` has accepted an offer of an instance that is
not offered. -/
structure Accepts (cfg : OfferConfig) (s t : LocalOffers) (k : InstanceKey) (version : Version)
    (client : UInt16) : Prop where
  before : s.localServices k = none
  localServices : t.localServices = Function.update s.localServices k (some (version, client))
  pending : t.pendingSdOffers = s.pendingSdOffers
  kind : t.kind = Function.update s.kind k (some (version, true))
  uses : ∀ {k' reliable e}, t.Uses k' reliable e ↔ s.Uses k' reliable e
  counted : Counted cfg t

namespace Accepts

variable {t : LocalOffers}

/-- An instance whose offer is accepted anew uses no endpoint yet. -/
lemma not_uses (h : Accepts cfg s t k version client) (hs : Inv cfg s) (reliable : Bool) (e : ℕ) :
    ¬ t.Uses k reliable e := by
  rw [h.uses]
  intro huses
  have hoffered := hs.offered huses
  rw [h.before] at hoffered
  cases hoffered

/-- An instance whose offer is accepted anew does not wait for the network. -/
lemma not_pending (h : Accepts cfg s t k version client) (hs : Inv cfg s) :
    k ∉ s.pendingSdOffers := by
  intro hpending
  have hoffered := (hs.pending hpending).1
  rw [h.before] at hoffered
  cases hoffered

/-- An instance whose offer is accepted is offered. -/
lemma isSome (h : Accepts cfg s t k version client) : (t.localServices k).isSome := by
  simp [h.localServices]

/-- An offer that is accepted keeps the tables in agreement. -/
lemma agrees (h : Accepts cfg s t k version client) (hs : Inv cfg s) : t.Agrees := by
  refine ⟨fun k' v b hv => ?_, fun k' reliable e huses => ?_⟩
  · rw [h.kind] at hv
    by_cases hk' : k' = k
    · subst hk'
      simp only [Function.update_self, Option.some.injEq, Prod.mk.injEq] at hv
      exact hv.2.symm
    · rw [Function.update_of_ne hk'] at hv
      exact hs.isLocal hv
  · rw [h.uses] at huses
    have hoffered := hs.offered huses
    rw [h.localServices]
    by_cases hk' : k' = k
    · simp [hk']
    · rwa [Function.update_of_ne hk']

/-- What was pending is still offered and without endpoints. -/
lemma pending_spec (h : Accepts cfg s t k version client) (hs : Inv cfg s)
    (hk' : k' ∈ s.pendingSdOffers) :
    (t.localServices k').isSome ∧ ∀ reliable e, ¬ t.Uses k' reliable e := by
  have hne : k' ≠ k := by
    rintro rfl
    exact h.not_pending hs hk'
  rw [h.localServices, Function.update_of_ne hne]
  exact ⟨(hs.pending hk').1, fun reliable e huse => (hs.pending hk').2 reliable e (h.uses.mp huse)⟩

/-- The endpoints of the instance are created at once. -/
lemma inv_initServiceInfo (h : Accepts cfg s t k version client) (hs : Inv cfg s)
    (hports : NoSharedPort cfg) : Inv cfg (t.initServiceInfo cfg k) := by
  have hopens := opens_initServiceInfo cfg t k
  have hagrees := (h.agrees hs).opens hopens h.isSome
  have hpending : (t.initServiceInfo cfg k).pendingSdOffers = s.pendingSdOffers :=
    hopens.pendingSdOffers.trans h.pending
  refine ⟨h.counted.initServiceInfo hports (h.not_uses hs), hagrees, fun k' hk' => ?_, ?_⟩
  · rw [hpending] at hk'
    have hne : k' ≠ k := by
      rintro rfl
      exact h.not_pending hs hk'
    obtain ⟨hoffered, hnot⟩ := h.pending_spec hs hk'
    rw [hopens.localServices]
    exact ⟨hoffered, fun reliable e huse => hnot reliable e ((hopens.uses_iff hne).mp huse)⟩
  · rw [hpending]
    exact hs.nodup

/-- The endpoints of the instance have to be created later. -/
lemma inv_pending (h : Accepts cfg s t k version client) (hs : Inv cfg s) :
    Inv cfg { t with pendingSdOffers := t.pendingSdOffers ++ [k] } := by
  have hagrees := h.agrees hs
  refine ⟨h.counted.congr rfl rfl rfl rfl Iff.rfl, ⟨hagrees.isLocal, hagrees.offered⟩,
    fun k' hk' => ?_, ?_⟩
  · have hk' : k' ∈ s.pendingSdOffers ∨ k' = k := by simpa [h.pending] using hk'
    rcases hk' with hk' | rfl
    · exact h.pending_spec hs hk'
    · exact ⟨h.isSome, h.not_uses hs⟩
  · have hnodup : (s.pendingSdOffers ++ [k]).Nodup := by
      rw [List.nodup_append]
      exact ⟨hs.nodup, List.nodup_singleton k, by
        rintro a ha b hb rfl
        exact h.not_pending hs (List.mem_singleton.mp hb ▸ ha)⟩
    simpa [h.pending] using hnodup

end Accepts

/-- An offer of an instance that is not offered. -/
lemma offerService_spec (client : UInt16) (version : Version) (unreachable : Bool) (hs : Inv cfg s)
    (hports : NoSharedPort cfg) (hnone : s.localServices k = none) :
    let x := s.offerService cfg k client version unreachable
    (x.2 = true ↔ ∀ v b, s.kind k = some (v, b) → v = version) ∧ (x.2 = false → x.1 = s) ∧
      (x.2 = true → Inv cfg x.1 ∧
        x.1.localServices = Function.update s.localServices k (some (version, client)) ∧
        x.1.stub = s.stub.onOfferService cfg.host client k.1 k.2 version ∧
        x.1.kind = Function.update s.kind k (some (version, true))) := by
  obtain ⟨haccept, hreject, hspec⟩ :=
    handleLocalOfferService_spec client version unreachable hs hnone
  rw [offerService]
  generalize s.handleLocalOfferService k client version unreachable = x at *
  obtain ⟨t, b⟩ := x
  dsimp only at haccept hreject hspec ⊢
  cases b with
  | false => exact ⟨by simpa using haccept, by simpa using hreject, by simp⟩
  | true =>
    obtain ⟨hlocal, hpending, hstub, hkind, huses, hcounted⟩ := hspec rfl
    have h : Accepts cfg s t k version client := ⟨hnone, hlocal, hpending, hkind, huses, hcounted⟩
    refine ⟨by simpa using haccept, by simp, fun _ => ?_⟩
    simp only [if_true]
    split
    · have hopens := opens_initServiceInfo cfg t k
      have hinv := h.inv_initServiceInfo hs hports
      refine ⟨⟨hinv.toCounted.congr rfl rfl rfl rfl Iff.rfl, ⟨hinv.isLocal, hinv.offered⟩,
        hinv.pending, hinv.nodup⟩, hopens.localServices.trans hlocal, ?_, hopens.kind.trans hkind⟩
      rw [hopens.stub, hstub]
    · have hinv := h.inv_pending hs
      exact ⟨⟨hinv.toCounted.congr rfl rfl rfl rfl Iff.rfl, ⟨hinv.isLocal, hinv.offered⟩,
        hinv.pending, hinv.nodup⟩, hlocal, by rw [hstub], hkind⟩

/-! ## Ends of offers -/

/-- An instance no longer uses one of its endpoints, and its service info says so. -/
def release (s : LocalOffers) (k : InstanceKey) (info : ServiceInfo) (e : ℕ) (reliable : Bool) :
    LocalOffers :=
  { s.detach k e reliable with
    services := Function.update s.services k (some (info.setEndpoint none reliable)) }

/-- The endpoints in use after one is released. -/
lemma uses_release {info : ServiceInfo} (hk : s.services k = some info) {k' : InstanceKey}
    {reliable' : Bool} {e' : ℕ} :
    (s.release k info e reliable).Uses k' reliable' e' ↔
      s.Uses k' reliable' e' ∧ ¬ (k' = k ∧ reliable' = reliable) := by
  simp only [Uses, release]
  by_cases hk' : k' = k
  · subst hk'
    by_cases hr : reliable' = reliable
    · subst hr
      simp [ServiceInfo.setEndpoint]
    · simp [hk, ServiceInfo.setEndpoint, hr]
  · simp [hk']

/-- Another instance on the port of a used endpoint uses that endpoint. -/
lemma Wired.eq_of_server (hs : Wired cfg s) (h : s.Uses k reliable e) {reliable' : Bool} {e' : ℕ}
    (h' : s.Uses k' reliable' e') (hport : cfg.port k' reliable' = cfg.port k reliable)
    (hreliable : reliable' = reliable) : e' = e := by
  subst hreliable
  have hserver := (hs.uses h).2
  rw [← hport, (hs.uses h').2] at hserver
  exact Option.some.inj hserver

section Release

variable {info : ServiceInfo}

/-- If an instance is the last one that uses an endpoint, no other one does, and it uses the endpoint
as one of its two only. -/
lemma Wired.eq_of_last (hs : Wired cfg s) (huses : s.Uses k reliable e)
    (hlast : (s.endpoints e).useCount - 1 = 0) {k' : InstanceKey} {reliable' : Bool}
    (h : s.Uses k' reliable' e) : k' = k ∧ reliable' = reliable := by
  obtain ⟨users, hcard, hmem⟩ := hs.count e
  have hone : users.card ≤ 1 := by omega
  obtain rfl := Finset.card_le_one.mp hone k' ((hmem k').mpr ⟨reliable', h⟩) k
    ((hmem k).mpr ⟨reliable, huses⟩)
  exact ⟨rfl, (hs.same (hs.uses huses).2 h).1⟩

/-- What is left in the table of server endpoints. -/
lemma Wired.serverEndpoints_detach (hs : Wired cfg s) (huses : s.Uses k reliable e) {port : UInt16}
    {reliable' : Bool} {e' : ℕ}
    (h : (s.detach k e reliable).serverEndpoints port reliable' = some e') :
    s.serverEndpoints port reliable' = some e' ∧ ((s.endpoints e).useCount - 1 = 0 → e' ≠ e) := by
  obtain ⟨-, hlocal, hreliable⟩ := hs.server (hs.uses huses).2
  simp only [LocalOffers.detach] at h
  split at h
  · rw [hlocal] at h
    by_cases hp : port = cfg.port k reliable
    · subst hp
      by_cases hr : reliable' = reliable
      · subst hr
        simp at h
      · rw [Function.update_self, Function.update_of_ne hr] at h
        refine ⟨h, fun _ => ?_⟩
        rintro rfl
        exact hr ((hs.server h).2.2.symm.trans hreliable)
    · rw [Function.update_of_ne hp] at h
      refine ⟨h, fun _ => ?_⟩
      rintro rfl
      exact hp ((hs.server h).2.1.symm.trans hlocal)
  · rename_i hnot
    exact ⟨h, fun h' => absurd h' hnot⟩

/-- The endpoints keep their ports, and one of them is used once less. -/
lemma endpoints_detach (s : LocalOffers) (k : InstanceKey) (e : ℕ) (reliable : Bool) (e' : ℕ) :
    ((s.detach k e reliable).endpoints e').localPort = (s.endpoints e').localPort ∧
      ((s.detach k e reliable).endpoints e').isReliable = (s.endpoints e').isReliable ∧
      ((s.detach k e reliable).endpoints e').useCount =
        if e' = e then (s.endpoints e).useCount - 1 else (s.endpoints e').useCount := by
  by_cases hee : e' = e
  · subst hee
    simp only [LocalOffers.detach, Function.update_self, if_true]
    split <;> exact ⟨rfl, rfl, rfl⟩
  · simp [LocalOffers.detach, hee]

/-- The endpoints that are still used stay in the table. -/
lemma Wired.serverEndpoints_of_uses_release (hs : Wired cfg s) (hk : s.services k = some info)
    (huses : s.Uses k reliable e) {k' : InstanceKey} {reliable' : Bool} {e' : ℕ}
    (h : (s.release k info e reliable).Uses k' reliable' e') :
    (s.release k info e reliable).serverEndpoints (cfg.port k' reliable') reliable' = some e' := by
  obtain ⟨-, hlocal, -⟩ := hs.server (hs.uses huses).2
  obtain ⟨hold, hne⟩ := (uses_release hk).mp h
  have hserver' := (hs.uses hold).2
  simp only [LocalOffers.release, LocalOffers.detach]
  split
  · rename_i hzero
    rw [hlocal]
    by_cases hp : cfg.port k' reliable' = cfg.port k reliable
    · by_cases hr : reliable' = reliable
      · obtain rfl := hs.eq_of_server huses hold hp hr
        exact absurd (hs.eq_of_last huses hzero hold) hne
      · rw [hp] at hserver' ⊢
        simpa [hr] using hserver'
    · simpa [hp] using hserver'
  · exact hserver'

/-- The counts are still the numbers of users. -/
lemma Wired.count_release (hs : Wired cfg s) (hk : s.services k = some info)
    (he : info.endpoint reliable = some e) (e' : ℕ) : ∃ users : Finset InstanceKey,
      users.card = ((s.release k info e reliable).endpoints e').useCount ∧
      ∀ k', k' ∈ users ↔ ∃ reliable', (s.release k info e reliable).Uses k' reliable' e' := by
  have huses : s.Uses k reliable e := ⟨info, hk, he⟩
  have hcount : ((s.release k info e reliable).endpoints e').useCount = _ :=
    (endpoints_detach s k e reliable e').2.2
  obtain ⟨users, hcard, hmem⟩ := hs.count e'
  rw [hcount]
  by_cases hee : e' = e
  · subst hee
    refine ⟨users.erase k, ?_, fun k' => ?_⟩
    · rw [if_pos rfl, Finset.card_erase_of_mem ((hmem k).mpr ⟨reliable, huses⟩), hcard]
    · rw [Finset.mem_erase, hmem]
      constructor
      · rintro ⟨hne, reliable', h⟩
        exact ⟨reliable', (uses_release hk).mpr ⟨h, fun h => hne h.1⟩⟩
      · rintro ⟨reliable', h⟩
        obtain ⟨hold, hne⟩ := (uses_release hk).mp h
        refine ⟨?_, reliable', hold⟩
        rintro rfl
        exact hne ⟨rfl, (hs.same (hs.uses huses).2 hold).1⟩
  · refine ⟨users, by rw [if_neg hee, hcard], fun k' => ?_⟩
    rw [hmem]
    refine exists_congr fun reliable' => ?_
    rw [uses_release hk, iff_self_and]
    rintro ⟨info', hk', he'⟩ ⟨rfl, rfl⟩
    rw [hk, Option.some.injEq] at hk'
    rw [← hk', he] at he'
    exact hee (Option.some.inj he').symm

/-- The instances at an endpoint are still those that use it. -/
lemma Wired.instances_release (hs : Wired cfg s) (hports : NoSharedPort cfg)
    (hk : s.services k = some info) (he : info.endpoint reliable = some e) {service i : UInt16}
    {e' : ℕ} : (e', i) ∈ (s.release k info e reliable).serviceInstances service ↔
      ∃ reliable', (s.release k info e reliable).Uses (service, i) reliable' e' := by
  have huses : s.Uses k reliable e := ⟨info, hk, he⟩
  simp only [uses_release hk]
  have hold : (e', i) ∈ s.serviceInstances service ↔
      ∃ reliable', s.Uses (service, i) reliable' e' := hs.instances
  by_cases hservice : service = k.1
  · subst hservice
    have hentry : (e, k.2) ∈ s.serviceInstances k.1 := hs.instances.mpr ⟨reliable, huses⟩
    have hfilter : (if (s.serviceInstances k.1).length ≤ 1 then []
        else (s.serviceInstances k.1).filter (·.1 ≠ e)) =
        (s.serviceInstances k.1).filter (·.1 ≠ e) := by
      split
      · rename_i hlength
        match hl : s.serviceInstances k.1, hlength with
        | [], _ => rfl
        | [x], _ =>
          rw [hl, List.mem_singleton] at hentry
          simp [← hentry]
      · rfl
    simp only [LocalOffers.release, LocalOffers.detach, hfilter, Function.update_self, List.mem_filter,
      decide_eq_true_eq, hold]
    constructor
    · rintro ⟨⟨reliable', h⟩, hne⟩
      refine ⟨reliable', h, ?_⟩
      rintro ⟨heq, rfl⟩
      rw [heq] at h
      exact hne (hs.eq_of_server huses h rfl rfl)
    · rintro ⟨reliable', h, hne⟩
      refine ⟨⟨reliable', h⟩, ?_⟩
      rintro rfl
      -- another instance of the service would share the port
      obtain ⟨rfl, heq⟩ := hs.same (hs.uses huses).2 h
      obtain rfl : i = k.2 := hports (hs.uses h).1 heq
      exact hne ⟨rfl, rfl⟩
  · have hne : (service, i) ≠ k := fun h => hservice (congrArg Prod.fst h)
    simp [LocalOffers.release, LocalOffers.detach, hservice, hold, hne]

/-- An instance no longer uses one of its endpoints. -/
lemma Counted.release (hs : Counted cfg s) (hports : NoSharedPort cfg)
    (hk : s.services k = some info) (he : info.endpoint reliable = some e) :
    Counted cfg (s.release k info e reliable) := by
  have huses : s.Uses k reliable e := ⟨info, hk, he⟩
  have hcount (e' : ℕ) : ((s.release k info e reliable).endpoints e').useCount = _ :=
    (endpoints_detach s k e reliable e').2.2
  refine ⟨⟨fun k' reliable' e' h => ?_, fun port reliable' e' h => ?_, hs.count_release hk he,
    hs.instances_release hports hk he⟩, fun port reliable' e' h => ?_, fun e' hlt' h => ?_⟩
  · exact ⟨(hs.uses ((uses_release hk).mp h).1).1, hs.serverEndpoints_of_uses_release hk huses h⟩
  · obtain ⟨hlt', hlocal', hreliable'⟩ := hs.server (hs.serverEndpoints_detach huses h).1
    obtain ⟨hport, hkind, -⟩ := endpoints_detach s k e reliable e'
    exact ⟨hlt', hport.trans hlocal', hkind.trans hreliable'⟩
  · obtain ⟨hold, hne⟩ := hs.serverEndpoints_detach huses h
    rw [hcount]
    split
    · rename_i hee
      exact fun hzero => hne hzero hee
    · exact hs.inUse hold
  · rw [hcount] at h
    split at h
    · rename_i hee
      subst hee
      simp only [LocalOffers.release, LocalOffers.detach, Function.update_self, h, if_true]
    · rename_i hee
      simp only [LocalOffers.release, LocalOffers.detach, Function.update_of_ne hee]
      exact hs.stopped hlt' h

end Release

/-- Detaching an endpoint keeps the service infos. -/
lemma services_detach (s : LocalOffers) (k : InstanceKey) (e : ℕ) (reliable : Bool) :
    (s.detach k e reliable).services = s.services := rfl

/-- The endpoint tables when an instance no longer uses one of its endpoints, if it has it. -/
def drop (s : LocalOffers) (k : InstanceKey) (reliable : Bool) (e : Option ℕ) : LocalOffers :=
  match e with
  | none => s
  | some e => s.detach k e reliable

/-- Dropping an endpoint keeps the offers. -/
@[simp] lemma drop_localServices (s : LocalOffers) (k : InstanceKey) (reliable : Bool) (e : Option ℕ) :
    (s.drop k reliable e).localServices = s.localServices := by
  cases e <;> rfl

/-- Dropping an endpoint keeps the offers that wait for the network. -/
@[simp] lemma drop_pendingSdOffers (s : LocalOffers) (k : InstanceKey) (reliable : Bool)
    (e : Option ℕ) : (s.drop k reliable e).pendingSdOffers = s.pendingSdOffers := by
  cases e <;> rfl

/-- What `on_stop_offer_service` does once the instance is erased from `local_services_`: its endpoints
are dropped, and its service info is erased, unless there is a service discovery and no endpoint. -/
lemma cleanup_eq {info : ServiceInfo} (hk : s.services k = some info) :
    (((if cfg.discovery then s
        else s.delRoutingInfo cfg k (info.endpoint true).isSome (info.endpoint false).isSome).cleanup k
          true (info.endpoint true)).cleanup k false (info.endpoint false)) =
      { (s.drop k true (info.endpoint true)).drop k false (info.endpoint false) with
        services :=
          if cfg.discovery ∧ info.endpoint true = none ∧ info.endpoint false = none then s.services
          else Function.update s.services k none
        stub :=
          if cfg.discovery then s.stub
          else s.stub.onStopOfferService cfg.host routingClient k.1 k.2 info.version } := by
  cases hd : cfg.discovery with
  | true =>
    cases hr : info.endpoint true with
    | none =>
      cases hu : info.endpoint false with
      | none => simp [cleanup, drop]
      | some e =>
        simp only [cleanup, drop, clearServiceInfo, services_detach, hk, hr, Bool.not_false, if_true]
        rfl
    | some e =>
      cases hu : info.endpoint false with
      | none =>
        simp only [cleanup, drop, clearServiceInfo, services_detach, hk, hu, Bool.not_true, if_true]
        rfl
      | some e' =>
        simp [cleanup, drop, LocalOffers.detach, clearServiceInfo, hk, hu, ServiceInfo.setEndpoint]
  | false =>
    cases hr : info.endpoint true with
    | none =>
      cases hu : info.endpoint false with
      | none => simp [cleanup, drop, delRoutingInfo, clearServiceInfo, hk, hu]
      | some e =>
        simp [cleanup, drop, delRoutingInfo, clearServiceInfo, services_detach, hk, hr]
        rfl
    | some e =>
      cases hu : info.endpoint false with
      | none => simp [cleanup, drop, delRoutingInfo, LocalOffers.detach, clearServiceInfo, hk, hu]
      | some e' =>
        simp [cleanup, drop, delRoutingInfo, LocalOffers.detach, clearServiceInfo, hk, hu,
          ServiceInfo.setEndpoint]

/-- An instance no longer uses one of its endpoints, if it has it. -/
lemma Counted.drop (hs : Counted cfg s) (hports : NoSharedPort cfg) {info : ServiceInfo}
    (hk : s.services k = some info) (reliable : Bool) :
    Counted cfg { s.drop k reliable (info.endpoint reliable) with
      services := Function.update s.services k (some (info.setEndpoint none reliable)) } := by
  cases he : info.endpoint reliable with
  | some e => exact hs.release hports hk he
  | none =>
    refine hs.congr rfl rfl rfl rfl fun {k' reliable' e'} => ?_
    by_cases hk' : k' = k
    · subst hk'
      by_cases hr : reliable' = reliable
      · subst hr
        simp [Uses, hk, he, ServiceInfo.setEndpoint]
      · simp [Uses, hk, ServiceInfo.setEndpoint, hr]
    · simp [Uses, hk']

/-- The endpoint tables do not depend on the service infos. -/
lemma drop_services (s : LocalOffers) (f : InstanceKey → Option ServiceInfo) (k : InstanceKey)
    (reliable : Bool) (e : Option ℕ) :
    LocalOffers.drop { s with services := f } k reliable e =
      { s.drop k reliable e with services := f } := by
  cases e <;> rfl

/-- An instance no longer uses its endpoints, and has no service info. -/
lemma Counted.drop_both (hs : Counted cfg s) (hports : NoSharedPort cfg) {info : ServiceInfo}
    (hk : s.services k = some info) :
    Counted cfg { (s.drop k true (info.endpoint true)).drop k false (info.endpoint false) with
      services := Function.update s.services k none } := by
  have hone := hs.drop hports hk true
  have hboth := hone.drop hports (Function.update_self k _ s.services) false
  have hother : (info.setEndpoint none true).endpoint false = info.endpoint false := by
    simp [ServiceInfo.setEndpoint]
  rw [hother, drop_services] at hboth
  have huses {k' : InstanceKey} {reliable' : Bool} {e' : ℕ} {t t' : LocalOffers}
      (h : t.services = Function.update s.services k none)
      (h' : t'.services = Function.update (Function.update s.services k
        (some (info.setEndpoint none true))) k
        (some ((info.setEndpoint none true).setEndpoint none false))) :
      t.Uses k' reliable' e' ↔ t'.Uses k' reliable' e' := by
    rw [Uses, Uses, h, h', Function.update_idem]
    by_cases hk' : k' = k
    · subst hk'
      cases reliable' <;> simp [ServiceInfo.setEndpoint]
    · simp [hk']
  exact hboth.congr rfl rfl rfl rfl (huses rfl rfl)

/-- Who offers what after `stop_offer_service` of a client. -/
def without (s : LocalOffers) (k : InstanceKey) (client : UInt16) :
    InstanceKey → Option (Version × UInt16) :=
  Function.update s.localServices k ((s.localServices k).filter (·.2 ≠ client))

/-- Erasing the offer of a client leaves the offers of others. -/
lemma eraseLocalService_eq :
    s.eraseLocalService k client = { s with localServices := s.without k client } := by
  rw [eraseLocalService, without]
  cases h : s.localServices k with
  | none =>
    have hself : Function.update s.localServices k none = s.localServices := by
      rw [← h, Function.update_eq_self]
    rw [Option.filter_none, hself]
  | some x =>
    obtain ⟨v, c⟩ := x
    by_cases hc : c = client
    · simp [hc, Option.filter]
    · have hself : Function.update s.localServices k (some (v, c)) = s.localServices := by
        rw [← h, Function.update_eq_self]
      simp [hc, hself, Option.filter]

/-- Only the client that is recorded erases the instance from `local_services_`. -/
lemma without_foreign (hforeign : ∀ v, s.localServices k ≠ some (v, client)) :
    s.without k client = s.localServices := by
  have hfilter : (s.localServices k).filter (·.2 ≠ client) = s.localServices k := by
    cases hk : s.localServices k with
    | none => rfl
    | some x =>
      obtain ⟨v, c⟩ := x
      refine Option.filter_eq_some_iff.mpr ⟨rfl, decide_eq_true ?_⟩
      rintro rfl
      exact hforeign v hk
  rw [without, hfilter, Function.update_eq_self]

/-- `on_stop_offer_service`, if the instance has no service info. -/
lemma onStopOfferService_of_none (client : UInt16) (hk : s.services k = none) :
    s.onStopOfferService cfg k client = { s with localServices := s.without k client } := by
  rw [onStopOfferService, eraseLocalService_eq, hk]

/-- `on_stop_offer_service`, if the instance has a service info. -/
lemma onStopOfferService_of_some (client : UInt16) {info : ServiceInfo}
    (hk : s.services k = some info) : s.onStopOfferService cfg k client =
      let t : LocalOffers := { s with localServices := s.without k client }
      { (t.drop k true (info.endpoint true)).drop k false (info.endpoint false) with
        services :=
          if cfg.discovery ∧ info.endpoint true = none ∧ info.endpoint false = none then s.services
          else Function.update s.services k none
        stub :=
          if cfg.discovery then s.stub
          else s.stub.onStopOfferService cfg.host routingClient k.1 k.2 info.version } := by
  rw [onStopOfferService, eraseLocalService_eq, hk]
  dsimp only
  rw [cleanup_eq (s := { s with localServices := s.without k client }) hk]

/-- The end of an offer, if the instance has no service info. -/
lemma stopOfferService_of_none (client : UInt16) (version : Version) (hk : s.services k = none) :
    s.stopOfferService cfg k client version =
      { s with
        pendingSdOffers := s.pendingSdOffers.erase k
        localServices := s.without k client
        stub := s.stub.onStopOfferService cfg.host client k.1 k.2 version } := by
  rw [stopOfferService, onStopOfferService_of_none
    (s := { s with pendingSdOffers := s.pendingSdOffers.erase k }) client hk]
  rfl

/-- The end of an offer, if the instance has a service info. -/
lemma stopOfferService_of_some (client : UInt16) (version : Version) {info : ServiceInfo}
    (hk : s.services k = some info) : s.stopOfferService cfg k client version =
      let t : LocalOffers := { s with
        pendingSdOffers := s.pendingSdOffers.erase k
        localServices := s.without k client }
      let stub :=
        if cfg.discovery then s.stub
        else s.stub.onStopOfferService cfg.host routingClient k.1 k.2 info.version
      { (t.drop k true (info.endpoint true)).drop k false (info.endpoint false) with
        services :=
          if cfg.discovery ∧ info.endpoint true = none ∧ info.endpoint false = none then s.services
          else Function.update s.services k none
        stub := stub.onStopOfferService cfg.host client k.1 k.2 version } := by
  rw [stopOfferService, onStopOfferService_of_some
    (s := { s with pendingSdOffers := s.pendingSdOffers.erase k }) client hk]
  rfl

/-- Of an instance whose service info is not touched nothing changes. -/
lemma kind_congr {t : LocalOffers} (hservices : ∀ k', k' ≠ k → t.services k' = s.services k') :
    ∀ k', k' ≠ k → t.kind k' = s.kind k' := by
  intro k' hk'
  rw [LocalOffers.kind, hservices k' hk', LocalOffers.kind]

/-- The client does not offer the instance, or the instance does not wait for the network. -/
def NotWaiting (s : LocalOffers) (client : UInt16) (k : InstanceKey) : Prop :=
  ∀ v, s.localServices k = some (v, client) → k ∉ s.pendingSdOffers

/-- The invariant when an instance is withdrawn and uses no endpoint any more. -/
lemma Inv.of_withdrawn (hs : Inv cfg s) (hwait : s.NotWaiting client k) {t : LocalOffers}
    (hc : Counted cfg t)
    (hlocal : t.localServices = s.without k client)
    (hpend : t.pendingSdOffers = s.pendingSdOffers)
    (hservices : ∀ k', k' ≠ k → t.services k' = s.services k')
    (hfree : ∀ reliable e, ¬ t.Uses k reliable e)
    (hkind : ∀ v b, t.kind k = some (v, b) → b = true) : Inv cfg t := by
  have huses {k' : InstanceKey} (hk' : k' ≠ k) {reliable : Bool} {e : ℕ} :
      t.Uses k' reliable e ↔ s.Uses k' reliable e := by rw [Uses, hservices k' hk', Uses]
  have hlocal' {k' : InstanceKey} (hk' : k' ≠ k) : t.localServices k' = s.localServices k' := by
    rw [hlocal, without, Function.update_of_ne hk']
  refine ⟨hc, ⟨fun k' v b h => ?_, fun k' reliable e h => ?_⟩, fun k' h => ?_, hpend ▸ hs.nodup⟩
  · by_cases hk' : k' = k
    · exact hkind v b (hk' ▸ h)
    · rw [kind_congr hservices k' hk'] at h
      exact hs.isLocal h
  · by_cases hk' : k' = k
    · exact absurd (hk' ▸ h) (hfree reliable e)
    · rw [hlocal' hk']
      exact hs.offered ((huses hk').mp h)
  · rw [hpend] at h
    by_cases hk' : k' = k
    · subst hk'
      rw [hlocal, without_foreign fun v hv => hwait v hv h]
      exact ⟨(hs.pending h).1, hfree⟩
    · rw [hlocal' hk']
      exact ⟨(hs.pending h).1, fun reliable e huse => (hs.pending h).2 reliable e
        ((huses hk').mp huse)⟩

/-- What `on_stop_offer_service` does. The service info stays if there is a service discovery and it has
no endpoint. -/
lemma onStopOfferService_spec (k : InstanceKey) (client : UInt16) (hs : Inv cfg s)
    (hports : NoSharedPort cfg) (hwait : s.NotWaiting client k) :
    let t := s.onStopOfferService cfg k client
    Inv cfg t ∧ t.localServices = s.without k client ∧
      t.pendingSdOffers = s.pendingSdOffers ∧ (∀ k', k' ≠ k → t.kind k' = s.kind k') ∧
      (t.services k = none ↔ s.services k = none ∨ cfg.discovery = false ∨
        ∃ reliable e, s.Uses k reliable e) ∧
      (t.stub = s.stub ∨ ∃ v, t.stub =
        s.stub.onStopOfferService cfg.host routingClient k.1 k.2 v) := by
  have hcounted : Counted cfg s := hs.toCounted
  cases hk : s.services k with
  | none =>
    rw [onStopOfferService_of_none client hk]
    refine ⟨hs.of_withdrawn hwait (hcounted.congr rfl rfl rfl rfl Iff.rfl) rfl rfl
      (fun _ _ => rfl) ?_ ?_, rfl, rfl,
      kind_congr fun _ _ => rfl, by simp [hk], .inl rfl⟩
    · rintro reliable e ⟨info, hk', -⟩
      rw [hk] at hk'
      cases hk'
    · intro v b h
      simp [LocalOffers.kind, hk] at h
  | some info =>
    have hbase : Counted cfg { s with localServices := s.without k client } :=
      hcounted.congr rfl rfl rfl rfl Iff.rfl
    rw [onStopOfferService_of_some client hk]
    dsimp only
    by_cases hkeep : cfg.discovery ∧ info.endpoint true = none ∧ info.endpoint false = none
    · -- the info of an instance without endpoints is not touched
      obtain ⟨hd, htrue, hfalse⟩ := hkeep
      have hfree (reliable : Bool) (e : ℕ) : ¬ s.Uses k reliable e := by
        refine not_uses_of_none hk ?_
        cases reliable <;> assumption
      simp only [hd, htrue, hfalse, and_self, if_true, drop]
      refine ⟨hs.of_withdrawn hwait (hcounted.congr rfl rfl rfl rfl Iff.rfl) rfl rfl
        (fun _ _ => rfl) hfree fun v b h => ?_, trivial, trivial, kind_congr fun _ _ => rfl,
        by simpa [hk, hd] using hfree, .inl trivial⟩
      exact hs.isLocal h
    · have hused : cfg.discovery = false ∨ ∃ reliable e, s.Uses k reliable e := by
        cases hd : cfg.discovery with
        | false => exact .inl rfl
        | true =>
          refine .inr ?_
          by_contra hfree
          push Not at hfree
          refine hkeep ⟨hd, ?_, ?_⟩ <;> rw [Option.eq_none_iff_forall_ne_some]
          · exact fun e he => hfree true e ⟨info, hk, he⟩
          · exact fun e he => hfree false e ⟨info, hk, he⟩
      simp only [if_neg hkeep]
      refine ⟨hs.of_withdrawn hwait ((hbase.drop_both hports hk).congr rfl rfl rfl rfl Iff.rfl)
        (by simp) (by simp) (fun k' hk' => by simp [hk']) ?_ ?_, by simp, by simp,
        kind_congr fun k' hk' => by simp [hk'], iff_of_true (by simp) (.inr hused), ?_⟩
      · rintro reliable e ⟨info', hk', -⟩
        simp at hk'
      · intro v b h
        simp [LocalOffers.kind] at h
      · cases cfg.discovery with
        | true => exact .inl rfl
        | false => exact .inr ⟨info.version, rfl⟩

/-- The end of an offer, by which the instance does not wait for the network any more. -/
lemma stopOfferService_spec (client : UInt16) (version : Version) (hs : Inv cfg s)
    (hports : NoSharedPort cfg) :
    let t := s.stopOfferService cfg k client version
    Inv cfg t ∧ t.localServices = s.without k client ∧
      t.pendingSdOffers = s.pendingSdOffers.erase k ∧ (∀ k', k' ≠ k → t.kind k' = s.kind k') ∧
      (t.services k = none ↔ s.services k = none ∨ cfg.discovery = false ∨
        ∃ reliable e, s.Uses k reliable e) ∧
      ∃ stub, (stub = s.stub ∨ ∃ v, stub =
        s.stub.onStopOfferService cfg.host routingClient k.1 k.2 v) ∧
        t.stub = stub.onStopOfferService cfg.host client k.1 k.2 version := by
  have hcounted : Counted cfg s := hs.toCounted
  have herase : Inv cfg { s with pendingSdOffers := s.pendingSdOffers.erase k } :=
    ⟨hcounted.congr rfl rfl rfl rfl Iff.rfl, ⟨hs.isLocal, hs.offered⟩,
      fun _ h => hs.pending (List.mem_of_mem_erase h), hs.nodup.erase k⟩
  obtain ⟨hinv, hlocal, hpending, hkind, hservices, hstub⟩ :=
    onStopOfferService_spec k client herase hports
      fun _ _ => hs.nodup.not_mem_erase
  have hcounted' := hinv.toCounted
  exact ⟨⟨hcounted'.congr rfl rfl rfl rfl Iff.rfl, ⟨hinv.isLocal, hinv.offered⟩, hinv.pending,
    hinv.nodup⟩, hlocal, hpending, hkind, hservices, _, hstub, rfl⟩

/-! ## Runs -/

/-- An offer takes an instance over from an unreachable client. -/
def Takeover (s : LocalOffers) : Event → Prop
  | .offer k client version unreachable =>
    ∃ c, s.localServices k = some (version, c) ∧ c ≠ client ∧ unreachable = true
  | .stopOffer .. => False
  | .registration .. => False
  | .network .. => False

/-- A client deregisters when it offers an instance that still waits for the network, or one that is
not in `routing_info_`, because the client is not allowed to offer it. -/
def Abandons (s : LocalOffers) : Event → Prop
  | .offer .. => False
  | .stopOffer .. => False
  | .registration client type => type ≠ .register ∧ ∃ k v, s.localServices k = some (v, client) ∧
    (k ∈ s.pendingSdOffers ∨ s.stub.version client k.1 k.2 = none)
  | .network .. => False

/-- The events of which a run may consist: all but those that take an instance over or abandon one. -/
def Regular (s : LocalOffers) (e : Event) : Prop :=
  ¬ s.Takeover e ∧ ¬ s.Abandons e

/-- An event is an offer or the end of an offer of an instance, be it by a deregistration. -/
def About (s : LocalOffers) (k : InstanceKey) : Event → Prop
  | .offer k' .. => k' = k
  | .stopOffer k' .. => k' = k
  | .registration client type => type ≠ .register ∧ s.stub.version client k.1 k.2 ≠ none
  | .network .. => False

/-- An instance is neither in `local_services_` nor in the stub's `routing_info_`. -/
def NotOffered (s : LocalOffers) (k : InstanceKey) : Prop :=
  s.localServices k = none ∧ ∀ c, s.stub.version c k.1 k.2 = none

/-- An offer of an offered instance is rejected, unless it takes the instance over. -/
lemma offerService_of_offered {v : Version} {c : UInt16} (hk : s.localServices k = some (v, c))
    (hregular : s.Regular (.offer k client version unreachable)) :
    s.offerService cfg k client version unreachable = (s, false) := by
  have hnot : ¬ (v = version ∧ c ≠ client ∧ unreachable = true) := by
    rintro ⟨rfl, hc, hu⟩
    exact hregular.1 ⟨c, hk, hc, hu⟩
  have hreject : s.handleLocalOfferService k client version unreachable = (s, false) := by
    simp only [handleLocalOfferService, hk, if_neg hnot]
  simp [offerService, hreject]

/-- From a state to a later one nothing has changed for an instance but its endpoints. -/
structure Keeps (k : InstanceKey) (s s' : LocalOffers) : Prop where
  localServices : s'.localServices k = s.localServices k
  kind : s'.kind k = s.kind k
  version : ∀ c, s'.stub.version c k.1 k.2 = s.stub.version c k.1 k.2

/-- An instance is kept if nothing happens. -/
lemma Keeps.refl (k : InstanceKey) (s : LocalOffers) : Keeps k s s :=
  ⟨rfl, rfl, fun _ => rfl⟩

/-- An instance that is kept in both steps is kept. -/
lemma Keeps.trans {s'' : LocalOffers} (h : Keeps k s s') (h' : Keeps k s' s'') : Keeps k s s'' :=
  ⟨h'.localServices.trans h.localServices, h'.kind.trans h.kind,
    fun c => (h'.version c).trans (h.version c)⟩

/-- The stub reports the instances that `routing_info_` has of a client. -/
lemma mem_servicesToReport {stub : RoutingManagerStub} :
    k ∈ stub.servicesToReport client ↔ stub.version client k.1 k.2 ≠ none := by
  rw [RoutingManagerStub.version_eq, RoutingManagerStub.servicesToReport, List.mem_flatMap]
  constructor
  · rintro ⟨x, hx, hk⟩
    obtain ⟨i, hi, rfl⟩ := List.mem_map.mp hk
    have hservice : (stub.routingInfo.getD client ∅)[x.1]? = some x.2 :=
      TreeMap.mem_toList_iff_getElem?_eq_some.mp hx
    have hinstance : x.2[i.1]? = some i.2 := TreeMap.mem_toList_iff_getElem?_eq_some.mp hi
    dsimp only
    rw [TreeMap.getD_eq_getD_getElem?, hservice, Option.getD_some, hinstance]
    nofun
  · intro hversion
    rw [TreeMap.getD_eq_getD_getElem?] at hversion
    cases hservice : (stub.routingInfo.getD client ∅)[k.1]? with
    | none => simp [hservice] at hversion
    | some instances =>
      rw [hservice, Option.getD_some] at hversion
      obtain ⟨v, hv⟩ := Option.ne_none_iff_exists'.mp hversion
      exact ⟨(k.1, instances), TreeMap.mem_toList_iff_getElem?_eq_some.mpr hservice,
        List.mem_map.mpr ⟨(k.2, v), TreeMap.mem_toList_iff_getElem?_eq_some.mpr hv, rfl⟩⟩

/-- `on_stop_offer_service` is about one instance only. -/
lemma Inv.keeps_onStopOfferService (hs : Inv cfg s) (hports : NoSharedPort cfg)
    (hwait : s.NotWaiting client k) (hk' : k' ≠ k) : Keeps k' s (s.onStopOfferService cfg k client) := by
  obtain ⟨-, hlocal, -, hkind, -, hstub⟩ := onStopOfferService_spec k client hs hports hwait
  refine ⟨?_, hkind k' hk', fun c => ?_⟩
  · rw [hlocal, without, Function.update_of_ne hk']
  · rcases hstub with hstub | ⟨v, hstub⟩
    · rw [hstub]
    · rw [hstub]
      exact RoutingManagerStub.version_onStopOfferService_of_ne fun h => hk' (Prod.ext h.1 h.2)

/-- A client that has ended an offer does not offer the instance. -/
lemma without_ne (s : LocalOffers) (k : InstanceKey) (client : UInt16) (v : Version) :
    s.without k client k ≠ some (v, client) := by
  rw [without, Function.update_self]
  intro h
  exact of_decide_eq_true (Option.filter_eq_some_iff.mp h).2 rfl

/-- The ends of the offers of a client that deregisters. -/
lemma foldl_onStopOfferService_spec (client : UInt16) (hports : NoSharedPort cfg) :
    ∀ (l : List InstanceKey) {s : LocalOffers}, Inv cfg s → (∀ k ∈ l, s.NotWaiting client k) →
      let t := l.foldl (fun s k => s.onStopOfferService cfg k client) s
      Inv cfg t ∧ (∀ k ∉ l, Keeps k s t) ∧ ∀ k ∈ l, ∀ v, t.localServices k ≠ some (v, client)
  | [], s, hs, _ => ⟨hs, fun k _ => .refl k s, fun _ h => absurd h List.not_mem_nil⟩
  | k :: l, s, hs, hl => by
    obtain ⟨hwait, hrest⟩ := List.forall_mem_cons.mp hl
    obtain ⟨hinv, hlocal, hpending, -⟩ := onStopOfferService_spec k client hs hports hwait
    have hkeeps {k' : InstanceKey} (hk' : k' ≠ k) := hs.keeps_onStopOfferService hports hwait hk'
    have hrest' : ∀ k' ∈ l, (s.onStopOfferService cfg k client).NotWaiting client k' := by
      intro k' hk' v hv
      rw [hpending]
      by_cases heq : k' = k
      · rw [heq, hlocal] at hv
        exact absurd hv (s.without_ne k client v)
      · rw [(hkeeps heq).localServices] at hv
        exact hrest k' hk' v hv
    obtain ⟨hinv', hkeeps', hgone⟩ := foldl_onStopOfferService_spec client hports l hinv hrest'
    refine ⟨hinv', fun k' hk' => ?_, List.forall_mem_cons.mpr ⟨fun v => ?_, hgone⟩⟩
    · obtain ⟨hne, hk'⟩ := not_or.mp fun h => hk' (List.mem_cons.mpr h)
      exact (hkeeps hne).trans (hkeeps' k' hk')
    · by_cases hk : k ∈ l
      · exact hgone k hk v
      · refine fun h => s.without_ne k client v ?_
        rw [← hlocal, ← (hkeeps' k hk).localServices]
        exact h

/-- The invariant is not about the stub. -/
lemma Inv.withStub (hs : Inv cfg s) (stub : RoutingManagerStub) : Inv cfg { s with stub := stub } := by
  have hcounted : Counted cfg s := hs.toCounted
  exact ⟨hcounted.congr rfl rfl rfl rfl Iff.rfl, ⟨hs.isLocal, hs.offered⟩, hs.pending, hs.nodup⟩

/-- A deregistration ends the offers of the client, and keeps all other instances. -/
lemma Inv.deregister {type : RoutingManagerStub.RegistrationType} (hs : Inv cfg s)
    (hports : NoSharedPort cfg) (htype : type ≠ .register)
    (hregular : ¬ s.Abandons (.registration client type)) :
    Inv cfg (s.clientRegistration cfg client type) ∧
      ∀ k, s.stub.version client k.1 k.2 = none →
        Keeps k s (s.clientRegistration cfg client type) := by
  have hfree {k : InstanceKey} {v : Version} (hk : s.localServices k = some (v, client)) :
      k ∉ s.pendingSdOffers ∧ k ∈ s.stub.servicesToReport client := by
    refine ⟨fun h => hregular ⟨htype, k, v, hk, .inl h⟩, mem_servicesToReport.mpr fun h => ?_⟩
    exact hregular ⟨htype, k, v, hk, .inr h⟩
  obtain ⟨hinv, hkeeps, hgone⟩ := foldl_onStopOfferService_spec client hports
    (s.stub.servicesToReport client) (hs.withStub (s.stub.onDeregisterApplication client))
    fun k _ v hk => (hfree hk).1
  have hforeign (k : InstanceKey) (v : Version) :
      (s.onDeregisterApplication cfg client).localServices k ≠ some (v, client) := by
    by_cases hk : k ∈ s.stub.servicesToReport client
    · exact hgone k hk v
    · refine fun h => hk (hfree (v := v) ?_).2
      rw [← h]
      exact (hkeeps k hk).localServices.symm
  have hstep : s.clientRegistration cfg client type =
      { s.onDeregisterApplication cfg client with
        stub := (s.onDeregisterApplication cfg client).stub.clientRegistration cfg.host client
          type } := by
    simp only [clientRegistration, if_neg htype, removeLocal]
    congr 1
    funext k
    cases hk : (s.onDeregisterApplication cfg client).localServices k with
    | none => rfl
    | some x =>
      refine Option.filter_eq_some_iff.mpr ⟨rfl, decide_eq_true ?_⟩
      rintro rfl
      exact hforeign k x.1 hk
  rw [hstep]
  refine ⟨hinv.withStub _, fun k hk => ?_⟩
  have hkeep := hkeeps k fun h => mem_servicesToReport.mp h hk
  refine ⟨hkeep.localServices, hkeep.kind, fun c => ?_⟩
  rw [RoutingManagerStub.version_clientRegistration]
  have hversion : (s.onDeregisterApplication cfg client).stub.version c k.1 k.2 =
      (s.stub.onDeregisterApplication client).version c k.1 k.2 := hkeep.version c
  rw [hversion, RoutingManagerStub.version_onDeregister]
  by_cases hc : c = client
  · rw [hc, if_pos ⟨htype, rfl⟩, hk]
  · rw [if_neg fun h => hc h.2, if_neg hc]

/-- A registration changes the stub only. -/
lemma Inv.registration {type : RoutingManagerStub.RegistrationType} (hs : Inv cfg s)
    (hports : NoSharedPort cfg) (he : s.Regular (.registration client type)) :
    Inv cfg (s.clientRegistration cfg client type) ∧
      ∀ k, ¬ s.About k (.registration client type) →
        Keeps k s (s.clientRegistration cfg client type) := by
  by_cases htype : type = .register
  · have hstep : s.clientRegistration cfg client type =
        { s with stub := s.stub.clientRegistration cfg.host client type } := by
      simp only [clientRegistration, if_pos htype]
    rw [hstep]
    refine ⟨hs.withStub _, fun k _ => ⟨rfl, rfl, fun c => ?_⟩⟩
    rw [RoutingManagerStub.version_clientRegistration, if_neg fun h => h.1 htype]
  · obtain ⟨hinv, hkeeps⟩ := hs.deregister hports htype he.2
    exact ⟨hinv, fun k hk => hkeeps k (not_not.mp fun h => hk ⟨htype, h⟩)⟩

/-- Every regular event keeps the invariant and the instances that it is not about. -/
lemma Inv.step {e : Event} (hs : Inv cfg s) (hports : NoSharedPort cfg) (he : s.Regular e) :
    Inv cfg (s.step cfg e) ∧ ∀ k, ¬ s.About k e → Keeps k s (s.step cfg e) := by
  cases e with
  | offer k client version unreachable =>
    rw [LocalOffers.step]
    cases hk : s.localServices k with
    | some x =>
      rw [offerService_of_offered hk he]
      exact ⟨hs, fun k' _ => .refl k' s⟩
    | none =>
      obtain ⟨-, hreject, haccept⟩ := offerService_spec client version unreachable hs hports hk
      cases hx : (s.offerService cfg k client version unreachable).2 with
      | false =>
        rw [hreject hx]
        exact ⟨hs, fun k' _ => .refl k' s⟩
      | true =>
        obtain ⟨hinv, hlocal, hstub, hkind⟩ := haccept hx
        refine ⟨hinv, fun k' hk' => ⟨?_, ?_, fun c => ?_⟩⟩
        · rw [hlocal, Function.update_of_ne (Ne.symm hk')]
        · rw [hkind, Function.update_of_ne (Ne.symm hk')]
        · rw [hstub, RoutingManagerStub.version_onOfferService, if_neg]
          rintro ⟨-, -, h1, h2⟩
          exact hk' (Prod.ext h1.symm h2.symm)
  | stopOffer k client version =>
    obtain ⟨hinv, hlocal, -, hkind, -, stub, hstub, hstub'⟩ :=
      stopOfferService_spec (k := k) client version hs hports
    rw [LocalOffers.step]
    refine ⟨hinv, fun k' hk' => ⟨?_, hkind k' (Ne.symm hk'), fun c => ?_⟩⟩
    · rw [hlocal, without, Function.update_of_ne (Ne.symm hk')]
    · have hne : ¬ (k'.1 = k.1 ∧ k'.2 = k.2) := fun h => hk' (Prod.ext h.1.symm h.2.symm)
      rw [hstub', RoutingManagerStub.version_onStopOfferService_of_ne hne]
      rcases hstub with rfl | ⟨v, rfl⟩
      · rfl
      · exact RoutingManagerStub.version_onStopOfferService_of_ne hne
  | registration client type => exact hs.registration hports he
  | network isInterface available =>
    obtain ⟨hinv, hlocal, hstub, hkind⟩ := hs.network hports isInterface available
    rw [LocalOffers.step]
    exact ⟨hinv, fun k _ => ⟨by rw [hlocal], by rw [hkind], fun c => by rw [hstub]⟩⟩

/-- A run of regular events that are not about an instance. -/
lemma Inv.run {events : List Event} (hs : Inv cfg s) (hports : NoSharedPort cfg)
    (hevents : Runs.Along (LocalOffers.step cfg) (fun s e => s.Regular e ∧ ¬ s.About k e) s events) :
    Inv cfg (Runs.run (LocalOffers.step cfg) s events) ∧
      Keeps k s (Runs.run (LocalOffers.step cfg) s events) := by
  refine @Runs.inv_run_of_along _ _ (LocalOffers.step cfg) (fun t => Inv cfg t ∧ Keeps k s t)
    (fun s e => s.Regular e ∧ ¬ s.About k e) (fun ht he => ?_) _ _ ⟨hs, .refl k s⟩ hevents
  obtain ⟨hinv, hkeeps⟩ := ht.1.step hports he.1
  exact ⟨hinv, ht.2.trans (hkeeps k he.2)⟩

/-! ## Balance -/

/-- Nothing is left of an instance that was offered: it is in no table, every endpoint counts the
offered instances that use it, and is stopped and erased if there are none, and both a later offer of
the instance in any version and a remote one are accepted. -/
structure Balanced (cfg : OfferConfig) (k : InstanceKey) (s : LocalOffers) : Prop where
  localServices : s.localServices k = none
  services : s.services k = none
  pendingSdOffers : k ∉ s.pendingSdOffers
  routingInfo : ∀ c, s.stub.version c k.1 k.2 = none
  count : ∀ e, ∃ users : Finset InstanceKey, users.card = (s.endpoints e).useCount ∧
    ∀ k, k ∈ users ↔ (s.localServices k).isSome ∧ ∃ reliable, s.Uses k reliable e
  stopped : ∀ e < s.nextEndpoint, (s.endpoints e).useCount = 0 → (s.endpoints e).isStopped = true ∧
    (∀ port reliable, s.serverEndpoints port reliable ≠ some e) ∧
    ∀ service i, (e, i) ∉ s.serviceInstances service
  offer : ∀ client version unreachable, (s.offerService cfg k client version unreachable).2 = true
  remote : s.AcceptsRoutingInfo k

/-- What the invariant says of an instance that is in no table. -/
lemma Inv.balanced (hs : Inv cfg s) (hports : NoSharedPort cfg) (hoffered : s.NotOffered k)
    (hk : s.services k = none) : Balanced cfg k s where
  localServices := hoffered.1
  services := hk
  pendingSdOffers h := by
    have hsome := (hs.pending h).1
    rw [hoffered.1] at hsome
    cases hsome
  routingInfo := hoffered.2
  count e := by
    obtain ⟨users, hcard, hmem⟩ := hs.count e
    refine ⟨users, hcard, fun k' => (hmem k').trans ⟨fun h => ⟨?_, h⟩, And.right⟩⟩
    obtain ⟨reliable, h⟩ := h
    exact hs.offered h
  stopped e he hzero := by
    refine ⟨hs.stopped he hzero, fun port reliable h => hs.inUse h hzero, fun service i h => ?_⟩
    obtain ⟨reliable, huses⟩ := hs.instances.mp h
    exact hs.inUse (hs.uses huses).2 hzero
  offer client version unreachable := by
    refine (offerService_spec client version unreachable hs hports hoffered.1).1.mpr fun v b h => ?_
    simp [LocalOffers.kind, hk] at h
  remote info h := by
    rw [hk] at h
    cases h

/-- The end of an offer takes the instance out of `routing_info_`, if no other client is there. -/
lemma notOffered_stopOfferService (hs : Inv cfg s) (hports : NoSharedPort cfg)
    (hlocal : s.localServices k = some (version, client))
    (hversion : ∀ c, s.stub.version c k.1 k.2 = none ∨
      c = client ∧ s.stub.version c k.1 k.2 = some version) :
    (s.stopOfferService cfg k client version).NotOffered k := by
  obtain ⟨-, hlocal', -, -, -, stub, hstub, hstub'⟩ :=
    stopOfferService_spec (k := k) client version hs hports
  refine ⟨?_, fun c => ?_⟩
  · simp [hlocal', without, hlocal, Option.filter]
  · rw [hstub']
    have hmiddle : stub.version c k.1 k.2 = none ∨
        c = client ∧ stub.version c k.1 k.2 = some version := by
      rcases hstub with rfl | ⟨v, rfl⟩
      · exact hversion c
      · rcases RoutingManagerStub.version_onStopOfferService_or cfg.host s.stub routingClient
          k.1 k.2 v c with h | h
        · exact .inl h
        · rw [h]
          exact hversion c
    rcases hmiddle with h | ⟨rfl, h⟩
    · rcases RoutingManagerStub.version_onStopOfferService_or cfg.host stub client k.1 k.2 version c
        with h' | h'
      · exact h'
      · rw [h', h]
    · exact RoutingManagerStub.version_onStopOfferService_self h

/-- **Offers and their ends are balanced** exactly if there is no service discovery or the instance
used an endpoint: in a state that is reached by regular events, an instance that is not offered is
offered, other regular events that are not about it happen, and the same client stops the offer.

**Proof sketch.** The invariant holds throughout, and says all that there is to say of the endpoints.
The events in between change the instance at most in its endpoints, so it is still offered in the
version, and the end of the offer takes it out of every table, but out of `services_` only under the
condition. -/
theorem balanced_iff (hports : NoSharedPort cfg) (before between : List Event)
    (hbefore : Runs.Along (step cfg) Regular (init cfg) before) {s₁ s₂ : LocalOffers}
    (hs₁ : s₁ = Runs.run (step cfg) (init cfg) before) (hk : s₁.NotOffered k)
    (haccept : (s₁.offerService cfg k client version unreachable).2 = true)
    (hbetween : Runs.Along (step cfg) (fun s e => s.Regular e ∧ ¬ s.About k e)
      (s₁.offerService cfg k client version unreachable).1 between)
    (hs₂ : s₂ = Runs.run (step cfg) (s₁.offerService cfg k client version unreachable).1 between) :
    Balanced cfg k (s₂.stopOfferService cfg k client version) ↔
      cfg.discovery = false ∨ ∃ reliable e, s₂.Uses k reliable e := by
  have hinv₁ : Inv cfg s₁ := by
    rw [hs₁]
    exact @Runs.inv_run_of_along _ _ (step cfg) (Inv cfg) Regular
      (fun hs he => (hs.step hports he).1) _ _ inv_init hbefore
  obtain ⟨hinv, hlocal, hstub, hkind⟩ :=
    (offerService_spec client version unreachable hinv₁ hports hk.1).2.2 haccept
  obtain ⟨hinv₂, hkeeps⟩ := hinv.run hports hbetween
  rw [← hs₂] at hinv₂ hkeeps
  have hlocal₂ : s₂.localServices k = some (version, client) := by
    rw [hkeeps.localServices, hlocal, Function.update_self]
  have hsome : s₂.services k ≠ none := by
    intro h
    have hkind₂ : s₂.kind k = some (version, true) := by
      rw [hkeeps.kind, hkind, Function.update_self]
    simp [LocalOffers.kind, h] at hkind₂
  have hversion (c : UInt16) : s₂.stub.version c k.1 k.2 = none ∨
      c = client ∧ s₂.stub.version c k.1 k.2 = some version := by
    rw [hkeeps.version, hstub, RoutingManagerStub.version_onOfferService]
    split
    · rename_i h
      exact .inr ⟨h.2.1, rfl⟩
    · exact .inl (hk.2 c)
  obtain ⟨hinv₃, -, -, -, hservices, -⟩ :=
    stopOfferService_spec (k := k) client version hinv₂ hports
  constructor
  · intro h
    exact (hservices.mp h.services).resolve_left hsome
  · intro h
    exact hinv₃.balanced hports (notOffered_stopOfferService hinv₂ hports hlocal₂ hversion)
      (hservices.mpr (.inr h))


/-- A host with a service discovery, on which instance 1 of service 1 has an unreliable port. -/
def onePort (port : UInt16) : OfferConfig where
  port k reliable := if k = (1, 1) ∧ reliable = false then port else illegalPort
  isSdEnabled := true
  discovery := true
  opens _ := true
  host := ⟨0x100, 32768, fun _ _ _ => true, by decide⟩

/-- One instance shares its port with no other. -/
lemma noSharedPort_onePort (port : UInt16) : NoSharedPort (onePort port) := by
  intro service i j reliable hport heq
  simp only [onePort, Prod.mk.injEq] at hport heq
  by_cases hi : (service = 1 ∧ i = 1) ∧ reliable = false
  · by_cases hj : (service = 1 ∧ j = 1) ∧ reliable = false
    · exact hi.1.2.trans hj.1.2.symm
    · rw [if_neg hj] at heq
      exact absurd heq hport
  · exact absurd (if_neg hi) hport

/-- The instance is offered while the network is up, and its offer is stopped. -/
theorem balanced_onePort : Balanced (onePort 30509) (1, 1)
    ((((init (onePort 30509)).step (onePort 30509) (.network true true)).offerService (onePort 30509)
      (1, 1) 0x101 ⟨1, 0⟩ false).1.stopOfferService (onePort 30509) (1, 1) 0x101 ⟨1, 0⟩) :=
  (balanced_iff (noSharedPort_onePort 30509) [.network true true] [] ⟨⟨not_false, not_false⟩, trivial⟩ rfl
    ⟨rfl, fun _ => RoutingManagerStub.version_init _ _ _⟩ (by decide) trivial rfl).mpr
    (.inr ⟨false, 0, _, rfl, rfl⟩)

/-- Nobody offers anything if `routing_info_` has no services. -/
lemma version_eq_none {stub : RoutingManagerStub}
    (hempty : stub.routingInfo.toList.all (·.2.isEmpty)) (c service i : UInt16) :
    stub.version c service i = none := by
  have hoffers : (stub.routingInfo.getD c ∅).isEmpty := by
    rw [TreeMap.getD_eq_getD_getElem?]
    cases hc : stub.routingInfo[c]? with
    | none => rfl
    | some offers =>
      exact List.all_eq_true.mp hempty (c, offers) (TreeMap.mem_toList_iff_getElem?_eq_some.mpr hc)
  rw [RoutingManagerStub.version_eq, TreeMap.getD_of_isEmpty hoffers]
  rfl

/-- A host without a service discovery, on which the client 0x103 may offer nothing. -/
def staticHost : OfferConfig :=
  { onePort illegalPort with
    isSdEnabled := false
    discovery := false
    host := ⟨0x100, 32768, fun c _ _ => c ≠ 0x103, by decide⟩ }

/-- A client deregisters while its offer waits for the network. -/
def deregisteredRun : List Event :=
  [.offer (1, 1) 0x101 ⟨1, 0⟩ false, .registration 0x101 .deregister]

/-- A client deregisters that was not allowed to offer the instance. -/
def forbiddenRun : List Event :=
  [.offer (1, 1) 0x103 ⟨1, 0⟩ false, .registration 0x103 .deregister]

/-- A client takes the instance over before it ends its offer, and the first client deregisters. -/
def takenOverRun : List Event :=
  [.offer (1, 1) 0x101 ⟨1, 0⟩ false, .offer (1, 1) 0x102 ⟨1, 0⟩ true, .stopOffer (1, 1) 0x102 ⟨1, 0⟩,
    .registration 0x101 .deregister]

/-- An instance without a port is offered, and its offer is stopped: its service info stays, and it
cannot be offered in another version. And after a run that abandons an offer or takes one over, an
instance still waits for the network when its offer is stopped. -/
theorem not_balanced_internal :
    ((init (onePort illegalPort)).NotOffered (1, 1) ∧
    ((init (onePort illegalPort)).offerService (onePort illegalPort) (1, 1) 0x101 ⟨1, 0⟩ false).2 =
      true ∧
    ¬ Balanced (onePort illegalPort) (1, 1)
      (((init (onePort illegalPort)).offerService (onePort illegalPort) (1, 1) 0x101 ⟨1, 0⟩
        false).1.stopOfferService (onePort illegalPort) (1, 1) 0x101 ⟨1, 0⟩)) ∧
    ∀ before ∈ [deregisteredRun, forbiddenRun, takenOverRun],
      let s := Runs.run (step staticHost) (init staticHost) before
      s.NotOffered (1, 1) ∧
      (s.offerService staticHost (1, 1) 0x102 ⟨1, 0⟩ false).2 = true ∧
      ¬ Balanced staticHost (1, 1) ((s.offerService staticHost (1, 1) 0x102 ⟨1, 0⟩
        false).1.stopOfferService staticHost (1, 1) 0x102 ⟨1, 0⟩) := by
  refine ⟨⟨⟨rfl, fun _ => RoutingManagerStub.version_init _ _ _⟩, by decide, fun h => ?_⟩,
    fun before hbefore => ?_⟩
  · have hoffer := h.offer 0x101 ⟨2, 0⟩ false
    revert hoffer
    decide
  · simp only [List.mem_cons, List.not_mem_nil, or_false] at hbefore
    rcases hbefore with rfl | rfl | rfl
    all_goals
      exact ⟨⟨rfl, fun c => version_eq_none (by decide) c 1 1⟩, by decide,
        fun h => h.pendingSdOffers (by decide)⟩

end Vsomeip.LocalOffers
