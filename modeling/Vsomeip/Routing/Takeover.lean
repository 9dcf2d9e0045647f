import Mathlib.Data.List.Sort
import Vsomeip.Lib.Runs
import Vsomeip.Routing.OfferBalance

set_option relaxedAutoImplicit false
set_option autoImplicit false

/-!
# Takeover of service instances

If an instance is offered that another local client offers already, in the same version, the routing
manager pings that client. The offer waits in `pending_offers_`; it is dropped when the client answers
and made again when the client is found to be dead. An offer is taken at once if the client cannot be
pinged. The end of the offer of the pinged client does not touch `pending_offers_`.

The tables of the offers themselves are those of `Vsomeip.LocalOffers`. That a client is deregistered
after an error is a later end of its offers.

## Main definitions

* `Vsomeip.Takeover` — the tables of the offers with `pending_offers_`.
* `Vsomeip.Takeover.offerService`, `Vsomeip.Takeover.onPong`, `Vsomeip.Takeover.handleClientError` —
  the steps of the protocol.
* `Vsomeip.Takeover.Sound` — what the protocol is for.

## Main results

* `Vsomeip.Takeover.sound_along_iff` — a run is sound if and only if no client ends its offer while
  another offer of the instance is pending.
-/

namespace Vsomeip

/-- An entry of `pending_offers_`: the version, the client that wants to offer the instance and the
client that was pinged. -/
structure PendingOffer where
  version : Version
  client : UInt16
  storedClient : UInt16
deriving DecidableEq

/-- What becomes of an offer. Only an accepted one makes `offer_service` return true. -/
inductive OfferResult
  | accepted
  | pinging
  | offeredByItself
  | offeredInAnotherVersion
  | currentPendingOffer
  | offeredByHost
  | offeredRemotely
deriving DecidableEq

/-- The tables of the offers with `pending_offers_`, in the order of its keys. -/
structure Takeover where
  offers : LocalOffers
  pendingOffers : List (InstanceKey × PendingOffer)

/-- What `handle_local_offer_service` finds out about the client that offers an instance: whether
`find_local` finds an endpoint for it, and whether `send_ping` succeeds. -/
structure Reach where
  hasEndpoint : Bool
  pingSent : Bool

namespace Takeover

/-- The routing manager after its start. -/
def init (cfg : OfferConfig) : Takeover :=
  ⟨.init cfg, []⟩

/-- The order of the keys of `pending_offers_`. -/
def Before (x y : InstanceKey × PendingOffer) : Prop :=
  x.1.1 < y.1.1 ∨ x.1.1 = y.1.1 ∧ x.1.2 ≤ y.1.2

instance : DecidableRel Before :=
  fun _ _ => inferInstanceAs (Decidable (_ ∨ _))

variable (cfg : OfferConfig) (s : Takeover) (k : InstanceKey)

/-- An offer that is not held up by another one. -/
def accept (client : UInt16) (version : Version) : Takeover × OfferResult :=
  let x := s.offers.offerService cfg k client version true
  ({ s with offers := x.1 }, if x.2 then .accepted else .offeredRemotely)

/-- `routing_manager_impl::offer_service` with the branches of
`routing_manager_impl::handle_local_offer_service`. -/
def offerService (client : UInt16) (version : Version) (reach : Reach) : Takeover × OfferResult :=
  match s.offers.localServices k with
  | none => s.accept cfg k client version
  | some (storedVersion, storedClient) =>
    if storedVersion = version then
      if storedClient = client then (s, .offeredByItself)
      else if s.pendingOffers.any fun x => x.1 = k then (s, .currentPendingOffer)
      else if reach.hasEndpoint then
        if reach.pingSent then
          ({ s with
              pendingOffers := s.pendingOffers.orderedInsert Before (k, ⟨version, client, storedClient⟩) },
            .pinging)
        else s.accept cfg k client version
      else if storedClient = cfg.host.client then (s, .offeredByHost)
      else s.accept cfg k client version
    else (s, .offeredInAnotherVersion)

/-- `routing_manager_impl::stop_offer_service`. -/
def stopOfferService (client : UInt16) (version : Version) : Takeover :=
  { s with offers := s.offers.stopOfferService cfg k client version }

/-- `routing_manager_impl::on_pong`. -/
def onPong (client : UInt16) : Takeover :=
  { s with pendingOffers := s.pendingOffers.filter fun x => x.2.storedClient ≠ client }

/-- `routing_manager_impl::handle_client_error`. The offers that waited for the client are made again,
the last one first. -/
def handleClientError (client : UInt16) (reach : InstanceKey → Reach) : Takeover :=
  let offers := (s.pendingOffers.filter fun x => x.2.storedClient = client).reverse
  offers.foldl (fun s x => (s.offerService cfg x.1 x.2.client x.2.version (reach x.1)).1)
    (s.onPong client)

/-! ## Runs -/

/-- What happens to the routing manager. -/
inductive Event
  | offer (k : InstanceKey) (client : UInt16) (version : Version) (reach : Reach)
  | stopOffer (k : InstanceKey) (client : UInt16) (version : Version)
  | pong (client : UInt16)
  | clientError (client : UInt16) (reach : InstanceKey → Reach)
  | network (isInterface available : Bool)

/-- The routing manager after an event. -/
def step (s : Takeover) : Event → Takeover
  | .offer k client version reach => (s.offerService cfg k client version reach).1
  | .stopOffer k client version => s.stopOfferService cfg k client version
  | .pong client => s.onPong client
  | .clientError client reach => s.handleClientError cfg client reach
  | .network isInterface available =>
    { s with offers := s.offers.onNetInterfaceOrRouteStateChanged cfg isInterface available }

/-- The client that offers an instance; there is at most one. -/
def offeringClient : Option UInt16 :=
  (s.offers.localServices k).map (·.2)

variable (versions : InstanceKey → Version)

/-- What the protocol is for, if every instance has one version. -/
structure Sound (s : Takeover) : Prop where
  /-- The client that was pinged for a pending offer still offers the instance. -/
  pending : ∀ ⦃k p⦄, (k, p) ∈ s.pendingOffers → s.offeringClient k = some p.storedClient
  /-- A client that answers the ping keeps its offer, and the other one is dropped. -/
  pong : ∀ ⦃k p⦄, (k, p) ∈ s.pendingOffers →
    (s.onPong p.storedClient).offeringClient k = some p.storedClient ∧
      ∀ q, (k, q) ∉ (s.onPong p.storedClient).pendingOffers
  /-- An instance that no client offers can be offered by every client. -/
  free : ∀ k client reach, s.offeringClient k = none →
    (s.offerService cfg k client (versions k) reach).2 = .accepted
  /-- An offer of another client than the present one is accepted or starts a ping. Otherwise the host
  itself offers the instance, or there is a pending offer for which the present client was pinged. -/
  taken : ∀ k c client reach, s.offeringClient k = some c → c ≠ client →
    (s.offerService cfg k client (versions k) reach).2 = .accepted ∨
    (s.offerService cfg k client (versions k) reach).2 = .pinging ∨
    (s.offerService cfg k client (versions k) reach).2 = .offeredByHost ∧ c = cfg.host.client ∨
    (s.offerService cfg k client (versions k) reach).2 = .currentPendingOffer ∧
      ∃ p, (k, p) ∈ s.pendingOffers ∧ p.storedClient = c

/-- All offers of an instance are in its version. -/
def OneVersion : Event → Prop
  | .offer k _ version _ => version = versions k
  | .stopOffer k _ version => version = versions k
  | _ => True

/-- A client does not end its offer while another one is pending for the instance. -/
def Settled (s : Takeover) : Event → Prop
  | .stopOffer k client _ => s.offeringClient k = some client → ∀ p, (k, p) ∉ s.pendingOffers
  | _ => True

end Takeover

/-! ## The tables of the offers -/

namespace LocalOffers

variable {cfg : OfferConfig} {s : LocalOffers} {k : InstanceKey} {client : UInt16} {version : Version}

/-- The rest of an offer that `handle_local_offer_service` accepts opens endpoints at most. -/
lemma offerService_of_handled (cfg : OfferConfig) {t : LocalOffers}
    (hhandle : s.handleLocalOfferService k client version true = (t, true)) :
    (s.offerService cfg k client version true).2 = true ∧
      (s.offerService cfg k client version true).1.localServices = t.localServices ∧
      (s.offerService cfg k client version true).1.kind = t.kind := by
  rw [offerService, hhandle]
  simp only [if_true]
  split
  · have hopens := opens_initServiceInfo cfg t k
    exact ⟨trivial, hopens.localServices, hopens.kind⟩
  · exact ⟨trivial, rfl, rfl⟩

/-- An offer that is not held up is accepted if the service info can be used. -/
lemma handleLocalOfferService_of_free
    (hfree : ∀ v c, s.localServices k = some (v, c) → v = version ∧ c ≠ client) :
    s.handleLocalOfferService k client version true =
      if (s.baseOfferService k version).2 then
        ({ (s.baseOfferService k version).1 with
            localServices := Function.update (s.baseOfferService k version).1.localServices k
              (some (version, client)) }, true)
      else ((s.baseOfferService k version).1, false) := by
  rw [handleLocalOfferService]
  cases hk : s.localServices k with
  | none => rfl
  | some x =>
    obtain ⟨v, c⟩ := x
    obtain ⟨rfl, hc⟩ := hfree v c hk
    simp [hc]

/-- An offer that is not held up is accepted if the service info of the instance, if it has one, is a
local one of the version. -/
lemma offerService_tables (cfg : OfferConfig)
    (hfree : ∀ v c, s.localServices k = some (v, c) → v = version ∧ c ≠ client) :
    let x := s.offerService cfg k client version true
    (x.2 = true ∧ x.1.localServices = Function.update s.localServices k (some (version, client)) ∧
      x.1.kind = Function.update s.kind k (some (version, true))) ∨
    x.2 = false ∧ x.1 = s ∧ ∃ v b, s.kind k = some (v, b) ∧ ¬ (v = version ∧ b = true) := by
  have hhandle := handleLocalOfferService_of_free hfree
  dsimp only
  cases hk : s.services k with
  | none =>
    rw [baseOfferService, hk] at hhandle
    obtain ⟨haccept, hlocal, hkind⟩ := offerService_of_handled cfg hhandle
    refine .inl ⟨haccept, hlocal, hkind.trans ?_⟩
    funext k'
    by_cases hk' : k' = k
    · simp [kind, hk']
    · simp [kind, hk']
  | some info =>
    have hkind : s.kind k = some (info.version, info.isLocal) := by simp [kind, hk]
    by_cases hsame : info.version = version ∧ info.isLocal = true
    · have hself : Function.update s.kind k (some (version, true)) = s.kind := by
        rw [← hsame.1, ← hsame.2, ← hkind, Function.update_eq_self]
      have haccepted : s.handleLocalOfferService k client version true =
          ({ s with
              localServices := Function.update s.localServices k (some (version, client)) }, true) := by
        rw [hhandle, baseOfferService, hk]
        simp [hsame.1, hsame.2]
      rw [hself]
      exact .inl (offerService_of_handled cfg haccepted)
    · have hreject : s.handleLocalOfferService k client version true = (s, false) := by
        have hfalse : (info.isLocal && info.version == version) = false := by
          rw [Bool.and_eq_false_iff]
          by_cases hlocal : info.isLocal = true
          · exact .inr (by simpa using fun h => hsame ⟨h, hlocal⟩)
          · exact .inl (by simpa using hlocal)
        rw [hhandle, baseOfferService, hk]
        simp only [hfalse, Bool.false_eq_true, if_false]
      refine .inr ⟨?_, ?_, info.version, info.isLocal, hkind, hsame⟩
      · rw [offerService, hreject]
        rfl
      · rw [offerService, hreject]
        rfl

/-- The end of an offer erases the service info of the instance, or keeps its version. -/
lemma stopOfferService_tables (cfg : OfferConfig) (s : LocalOffers) (k : InstanceKey)
    (client : UInt16) (version : Version) :
    (s.stopOfferService cfg k client version).localServices = s.without k client ∧
      ∀ k', (s.stopOfferService cfg k client version).kind k' = s.kind k' ∨
        (s.stopOfferService cfg k client version).kind k' = none := by
  cases hk : s.services k with
  | none =>
    rw [stopOfferService_of_none client version hk]
    exact ⟨rfl, fun k' => .inl rfl⟩
  | some info =>
    rw [stopOfferService_of_some client version hk]
    refine ⟨by simp, fun k' => ?_⟩
    by_cases hkeep : cfg.discovery ∧ info.endpoint true = none ∧ info.endpoint false = none
    · simp [kind, hkeep]
    · by_cases hk' : k' = k
      · simp [kind, hkeep, hk']
      · simp [kind, hkeep, hk']

/-- A change of the network opens endpoints at most. -/
lemma network_tables (cfg : OfferConfig) (s : LocalOffers) (isInterface available : Bool) :
    (s.onNetInterfaceOrRouteStateChanged cfg isInterface available).localServices =
        s.localServices ∧
      (s.onNetInterfaceOrRouteStateChanged cfg isInterface available).kind = s.kind := by
  have hfold : ∀ (l : List InstanceKey) (t : LocalOffers),
      (l.foldl (fun s k => s.initServiceInfo cfg k) t).localServices = t.localServices ∧
        (l.foldl (fun s k => s.initServiceInfo cfg k) t).kind = t.kind := by
    intro l
    induction l with
    | nil => exact fun t => ⟨rfl, rfl⟩
    | cons k l ih =>
      intro t
      have hopens := opens_initServiceInfo cfg t k
      exact ⟨(ih _).1.trans hopens.localServices, (ih _).2.trans hopens.kind⟩
  have hstart (t : LocalOffers) : (t.startIpRouting cfg).localServices = t.localServices ∧
      (t.startIpRouting cfg).kind = t.kind := hfold t.pendingSdOffers t
  rw [onNetInterfaceOrRouteStateChanged]
  split
  · split
    · dsimp only
      split
      · exact hstart _
      · exact ⟨rfl, rfl⟩
    · exact ⟨rfl, rfl⟩
  · split
    · dsimp only
      split
      · exact hstart _
      · exact ⟨rfl, rfl⟩
    · exact ⟨rfl, rfl⟩

end LocalOffers

namespace Takeover

/-! ## The steps -/

variable {cfg : OfferConfig} {s : Takeover} {k : InstanceKey} {versions : InstanceKey → Version}

/-- What holds in every sound run. -/
structure Inv (versions : InstanceKey → Version) (s : Takeover) : Prop where
  pending : ∀ ⦃k p⦄, (k, p) ∈ s.pendingOffers →
    s.offeringClient k = some p.storedClient ∧ p.version = versions k
  nodup : (s.pendingOffers.map Prod.fst).Nodup
  kind : ∀ ⦃k v b⦄, s.offers.kind k = some (v, b) → v = versions k ∧ b = true
  version : ∀ ⦃k v c⦄, s.offers.localServices k = some (v, c) → v = versions k

/-- The invariant holds at the start. -/
lemma inv_init : (init cfg).Inv versions where
  pending _ _ h := by cases h
  nodup := List.nodup_nil
  kind _ _ _ h := by cases h
  version _ _ _ h := by cases h

/-- The protocol does not depend on more of the offers. -/
lemma Inv.congr {offers : LocalOffers} (hs : s.Inv versions)
    (hlocal : offers.localServices = s.offers.localServices) (hkind : offers.kind = s.offers.kind) :
    Inv versions { s with offers } where
  pending k p h := by
    rw [offeringClient, hlocal]
    exact hs.pending h
  nodup := hs.nodup
  kind k v b h := by
    rw [hkind] at h
    exact hs.kind h
  version k v c h := by
    rw [hlocal] at h
    exact hs.version h

/-- An instance that does not wait has no pending offer. -/
lemma not_mem_of_any (h : ¬ s.pendingOffers.any fun x => x.1 = k) (p : PendingOffer) :
    (k, p) ∉ s.pendingOffers := by
  intro hmem
  exact h (List.any_eq_true.mpr ⟨(k, p), hmem, by simp⟩)

/-- An offer of an instance for which none is pending is accepted, unless it is held up. -/
lemma Inv.accept (hs : s.Inv versions) (cfg : OfferConfig) (client : UInt16)
    (hnone : ∀ p, (k, p) ∉ s.pendingOffers)
    (hfree : ∀ c, s.offeringClient k = some c → c ≠ client) :
    (s.accept cfg k client (versions k)).1.Inv versions ∧
      (s.accept cfg k client (versions k)).2 = .accepted := by
  have hheld (v : Version) (c : UInt16) (h : s.offers.localServices k = some (v, c)) :
      v = versions k ∧ c ≠ client :=
    ⟨hs.version h, hfree c (by rw [offeringClient, h]; rfl)⟩
  rcases LocalOffers.offerService_tables cfg hheld with
    ⟨hx, hlocal, hkind⟩ | ⟨-, -, v, b, h, hnot⟩
  · rw [Takeover.accept]
    refine ⟨⟨fun k' p h => ?_, hs.nodup, fun k' v b h => ?_, fun k' v c h => ?_⟩, by rw [hx]; rfl⟩
    · have hk' : k' ≠ k := by
        rintro rfl
        exact hnone p h
      rw [offeringClient, hlocal, Function.update_of_ne hk']
      exact hs.pending h
    · rw [hkind] at h
      by_cases hk' : k' = k
      · subst hk'
        rw [Function.update_self, Option.some.injEq, Prod.mk.injEq] at h
        exact ⟨h.1.symm, h.2.symm⟩
      · rw [Function.update_of_ne hk'] at h
        exact hs.kind h
    · rw [hlocal] at h
      by_cases hk' : k' = k
      · subst hk'
        rw [Function.update_self, Option.some.injEq, Prod.mk.injEq] at h
        exact h.1.symm
      · rw [Function.update_of_ne hk'] at h
        exact hs.version h
  · exact absurd (hs.kind h) hnot

/-- What becomes of an offer. -/
lemma Inv.offer (hs : s.Inv versions) (client : UInt16) (reach : Reach) :
    (s.offerService cfg k client (versions k) reach).1.Inv versions ∧
      (s.offeringClient k = none → (s.offerService cfg k client (versions k) reach).2 = .accepted) ∧
      ∀ c, s.offeringClient k = some c → c ≠ client →
        (s.offerService cfg k client (versions k) reach).2 = .accepted ∨
        (s.offerService cfg k client (versions k) reach).2 = .pinging ∨
        (s.offerService cfg k client (versions k) reach).2 = .offeredByHost ∧ c = cfg.host.client ∨
        (s.offerService cfg k client (versions k) reach).2 = .currentPendingOffer ∧
          ∃ p, (k, p) ∈ s.pendingOffers ∧ p.storedClient = c := by
  rw [offerService]
  cases hk : s.offers.localServices k with
  | none =>
    have hnone : s.offeringClient k = none := by rw [offeringClient, hk]; rfl
    have hfree (p : PendingOffer) : (k, p) ∉ s.pendingOffers := by
      intro h
      have hsome := (hs.pending h).1
      rw [hnone] at hsome
      cases hsome
    obtain ⟨hinv, haccepted⟩ := hs.accept cfg client hfree fun c h => by
      rw [hnone] at h
      cases h
    exact ⟨hinv, fun _ => haccepted, fun _ _ _ => .inl haccepted⟩
  | some x =>
    obtain ⟨v, c⟩ := x
    obtain rfl : v = versions k := hs.version hk
    have hc : s.offeringClient k = some c := by rw [offeringClient, hk]; rfl
    simp only [if_true, hc, reduceCtorEq, false_imp_iff, true_and, Option.some.injEq]
    split
    · rename_i heq
      exact ⟨hs, fun c' hc' hne => absurd (hc' ▸ heq) hne⟩
    · rename_i hne
      split
      · rename_i hany
        refine ⟨hs, fun c' hc' _ => .inr (.inr (.inr ⟨rfl, ?_⟩))⟩
        obtain ⟨⟨k', p⟩, hmem, hk'⟩ := List.any_eq_true.mp hany
        obtain rfl : k' = k := by simpa using hk'
        have hstored := (hs.pending hmem).1
        rw [hc, Option.some.injEq] at hstored
        exact ⟨p, hmem, hstored.symm.trans hc'⟩
      · rename_i hany
        have hnone := not_mem_of_any hany
        obtain ⟨hinv, haccepted⟩ := hs.accept cfg client hnone fun c' h => by
          rw [hc, Option.some.injEq] at h
          exact h ▸ hne
        split
        · split
          · refine ⟨⟨fun k' p h => ?_, ?_, hs.kind, hs.version⟩, fun _ _ _ => .inr (.inl rfl)⟩
            · rw [List.mem_orderedInsert] at h
              rcases h with heq | h
              · obtain ⟨rfl, rfl⟩ := Prod.mk.inj heq
                exact ⟨hc, rfl⟩
              · exact hs.pending h
            · have hperm := (List.perm_orderedInsert Before (k, ⟨versions k, client, c⟩)
                s.pendingOffers).map Prod.fst
              rw [hperm.nodup_iff, List.map_cons, List.nodup_cons]
              refine ⟨fun hmem => ?_, hs.nodup⟩
              obtain ⟨⟨k', p⟩, h, rfl⟩ := List.mem_map.mp hmem
              exact hnone p h
          · exact ⟨hinv, fun _ _ _ => .inl haccepted⟩
        · split
          · rename_i hhost
            exact ⟨hs, fun c' hc' _ => .inr (.inr (.inl ⟨rfl, hc' ▸ hhost⟩))⟩
          · exact ⟨hinv, fun _ _ _ => .inl haccepted⟩

/-- A PONG keeps the invariant. -/
lemma Inv.onPong (hs : s.Inv versions) (client : UInt16) : (s.onPong client).Inv versions where
  pending _ _ h := hs.pending (List.mem_of_mem_filter h)
  nodup := hs.nodup.sublist (List.filter_sublist.map Prod.fst)
  kind := hs.kind
  version := hs.version

/-- The loop of `handle_client_error` over the offers that are made again. -/
lemma Inv.foldl_offer (reach : InstanceKey → Reach) : ∀ {l : List (InstanceKey × PendingOffer)}
    {s : Takeover}, s.Inv versions → (∀ x ∈ l, x.2.version = versions x.1) →
    (l.foldl (fun s x => (s.offerService cfg x.1 x.2.client x.2.version (reach x.1)).1) s).Inv versions
  | [], _, hs, _ => hs
  | x :: l, s, hs, hl => by
    obtain ⟨hx, hl⟩ := List.forall_mem_cons.mp hl
    rw [List.foldl_cons, hx]
    exact Inv.foldl_offer reach (hs.offer x.2.client (reach x.1)).1 hl

/-- The error of a client keeps the invariant. -/
lemma Inv.handleClientError (hs : s.Inv versions) (client : UInt16) (reach : InstanceKey → Reach) :
    (s.handleClientError cfg client reach).Inv versions := by
  refine Inv.foldl_offer reach (hs.onPong client) fun x hx => ?_
  rw [List.mem_reverse] at hx
  exact (hs.pending (List.mem_of_mem_filter hx)).2

/-- Who offers the instances after an offer is stopped. -/
lemma offeringClient_stop {client : UInt16} {version : Version} (k' : InstanceKey) :
    (s.stopOfferService cfg k client version).offeringClient k' =
      if k' = k then (s.offeringClient k).filter (· ≠ client) else s.offeringClient k' := by
  rw [offeringClient, Takeover.stopOfferService,
    (LocalOffers.stopOfferService_tables cfg s.offers k client version).1, LocalOffers.without]
  by_cases hk : k' = k
  · subst hk
    rw [Function.update_self, if_pos rfl, offeringClient]
    cases h : s.offers.localServices k' with
    | none => rfl
    | some x =>
      by_cases hc : x.2 = client
      · simp [Option.filter, hc]
      · simp [Option.filter, hc]
  · rw [Function.update_of_ne hk, if_neg hk, offeringClient]

/-- The end of an offer for which no other one waits. -/
lemma Inv.stop (hs : s.Inv versions) {client : UInt16} {version : Version}
    (hsettled : s.Settled (.stopOffer k client version)) :
    (s.stopOfferService cfg k client version).Inv versions where
  pending k' p h := by
    obtain ⟨hclient, hversion⟩ := hs.pending h
    refine ⟨?_, hversion⟩
    rw [offeringClient_stop]
    by_cases hk : k' = k
    · subst hk
      have hne : p.storedClient ≠ client := by
        intro heq
        exact hsettled (heq ▸ hclient) p h
      simp [hclient, Option.filter, hne]
    · rw [if_neg hk]
      exact hclient
  nodup := hs.nodup
  kind k' v b h := by
    have hkind := (LocalOffers.stopOfferService_tables cfg s.offers k client version).2 k'
    rcases hkind with hkind | hkind
    · exact hs.kind (hkind.symm.trans h)
    · have hnone : (none : Option (Version × Bool)) = some (v, b) := hkind.symm.trans h
      cases hnone
  version k' v c h := by
    have hlocal : (s.stopOfferService cfg k client version).offers.localServices =
        s.offers.without k client :=
      (LocalOffers.stopOfferService_tables cfg s.offers k client version).1
    rw [hlocal, LocalOffers.without] at h
    by_cases hk : k' = k
    · subst hk
      rw [Function.update_self] at h
      exact hs.version (Option.filter_eq_some_iff.mp h).1
    · rw [Function.update_of_ne hk] at h
      exact hs.version h

/-- Every event that does not end an offer for which another one waits keeps the invariant. -/
lemma Inv.step (hs : s.Inv versions) (cfg : OfferConfig) {e : Event} (he : OneVersion versions e)
    (hsettled : s.Settled e) :
    (s.step cfg e).Inv versions := by
  cases e with
  | offer k client version reach =>
    obtain rfl : version = versions k := he
    exact (hs.offer client reach).1
  | stopOffer k client version => exact hs.stop hsettled
  | pong client => exact hs.onPong client
  | clientError client reach => exact hs.handleClientError client reach
  | network isInterface available =>
    obtain ⟨hlocal, hkind⟩ := LocalOffers.network_tables cfg s.offers isInterface available
    exact hs.congr hlocal hkind

/-- What the invariant says of the protocol. -/
lemma Inv.sound (hs : s.Inv versions) : s.Sound cfg versions where
  pending k p h := (hs.pending h).1
  pong k p h := by
    refine ⟨(hs.pending h).1, fun q hq => ?_⟩
    obtain ⟨hq, hne⟩ := List.mem_filter.mp hq
    have hstored := (hs.pending hq).1
    rw [(hs.pending h).1, Option.some.injEq] at hstored
    simp [hstored] at hne
  free k client reach hnone := (hs.offer client reach).2.1 hnone
  taken k c client reach hc hne := (hs.offer client reach).2.2 c hc hne

/-- **The takeover of instances is sound along a run** if and only if no client ends its offer while
another offer of the instance is pending.

**Proof sketch.** A pending offer is entered with the client that offers the instance, and while it is
pending the offers of the instance are refused, so only the end of the offer of that client can make it
a leftover. -/
theorem sound_along_iff {events : List Event} (hevents : ∀ e ∈ events, OneVersion versions e) :
    Runs.Along (Takeover.step cfg) (fun s e => (s.step cfg e).Sound cfg versions) (init cfg) events ↔
      Runs.Along (Takeover.step cfg) Settled (init cfg) events := by
  refine @Runs.along_iff _ _ (Takeover.step cfg) (Inv versions) (fun _ e => OneVersion versions e)
    Settled (fun s e => (s.step cfg e).Sound cfg versions) (fun hs he hgood => ?_)
    (fun {s e} hs he hbad hsound => hbad ?_) _ _ inv_init (Runs.along_of_forall hevents)
  · have hnext := hs.step cfg he hgood
    exact ⟨hnext, hnext.sound⟩
  · cases e with
    | stopOffer k client version =>
      intro hclient p hp
      have hleft := hsound.pending (k := k) (p := p) hp
      rw [Takeover.step, offeringClient_stop, if_pos rfl, hclient] at hleft
      simp [Option.filter] at hleft
    | _ => trivial

/-! ## Two clients -/

/-- The instances of the examples are of version 1.0. -/
def exampleVersions : InstanceKey → Version :=
  fun _ => ⟨1, 0⟩

/-- A client that can be pinged. -/
def reachable : Reach :=
  ⟨true, true⟩

/-- A client offers an instance, another one wants to, and the first one answers the ping. -/
theorem sound_along_pong :
    Runs.Along (Takeover.step (LocalOffers.onePort 30509))
      (fun s e => (s.step (LocalOffers.onePort 30509) e).Sound (LocalOffers.onePort 30509)
        exampleVersions) (init (LocalOffers.onePort 30509))
      [.offer (1, 1) 0x101 ⟨1, 0⟩ reachable, .offer (1, 1) 0x102 ⟨1, 0⟩ reachable, .pong 0x101,
        .stopOffer (1, 1) 0x101 ⟨1, 0⟩] := by
  have hversions : ∀ e ∈ [Event.offer (1, 1) 0x101 ⟨1, 0⟩ reachable,
      .offer (1, 1) 0x102 ⟨1, 0⟩ reachable, .pong 0x101, .stopOffer (1, 1) 0x101 ⟨1, 0⟩],
      OneVersion exampleVersions e := by
    simp [OneVersion, exampleVersions]
  refine (sound_along_iff hversions).mpr ⟨trivial, trivial, trivial, fun _ p hp => ?_, trivial⟩
  have hnone : (Runs.run (Takeover.step (LocalOffers.onePort 30509)) (init (LocalOffers.onePort 30509))
      [.offer (1, 1) 0x101 ⟨1, 0⟩ reachable, .offer (1, 1) 0x102 ⟨1, 0⟩ reachable,
        .pong 0x101]).pendingOffers = [] := by decide
  exact List.not_mem_nil (hnone ▸ hp)

/-- The first client ends its offer instead of answering: the pending offer is left over. When it offers
the instance again, the second client cannot offer it any more, and no client is pinged. -/
theorem not_sound_leftover :
    (∀ e ∈ [Event.offer (1, 1) 0x101 ⟨1, 0⟩ reachable, .offer (1, 1) 0x102 ⟨1, 0⟩ reachable,
      .stopOffer (1, 1) 0x101 ⟨1, 0⟩, .offer (1, 1) 0x103 ⟨1, 0⟩ reachable],
      OneVersion exampleVersions e) ∧
    ¬ (Runs.run (Takeover.step (LocalOffers.onePort 30509)) (init (LocalOffers.onePort 30509))
      [.offer (1, 1) 0x101 ⟨1, 0⟩ reachable, .offer (1, 1) 0x102 ⟨1, 0⟩ reachable,
        .stopOffer (1, 1) 0x101 ⟨1, 0⟩]).Sound (LocalOffers.onePort 30509) exampleVersions ∧
    ((Runs.run (Takeover.step (LocalOffers.onePort 30509)) (init (LocalOffers.onePort 30509))
      [.offer (1, 1) 0x101 ⟨1, 0⟩ reachable, .offer (1, 1) 0x102 ⟨1, 0⟩ reachable,
        .stopOffer (1, 1) 0x101 ⟨1, 0⟩, .offer (1, 1) 0x103 ⟨1, 0⟩ reachable]).offerService
      (LocalOffers.onePort 30509) (1, 1) 0x102 ⟨1, 0⟩ reachable).2 = .currentPendingOffer := by
  refine ⟨by simp [OneVersion, exampleVersions], fun h => ?_, by decide⟩
  have hleft := @Sound.pending _ _ _ h (1, 1) ⟨⟨1, 0⟩, 0x102, 0x101⟩ (by decide)
  revert hleft
  decide

end Takeover

end Vsomeip
