import Vsomeip.Routing.RoutingHost

set_option relaxedAutoImplicit false
set_option autoImplicit false

/-!
# Offers that the policy forbids

A client may offer the instances that `is_offer_allowed` allows. It is asked by
`routing_manager_stub::on_offer_service`, which skips an offer that is forbidden. This is the last but one
step of `routing_manager_impl::offer_service`: the instance has been entered in `local_services_` and
`services_` by then, its endpoints have been opened, and the service discovery has been given it; after it
the instance is reported to be available.

An offer that is forbidden has no effect only if it would not have one if it was allowed. One that is
rejected because the provider is asked for a sign of life waits in `pending_offers_`, which is none of the
tables here; `handle_client_error` makes it when the provider does not answer.

## Main definitions

* `Vsomeip.Takeover.Rejects` — when `handle_local_offer_service` rejects an offer.
* `Vsomeip.RoutingHost.Unaffected` — an offer has no effect.

## Main results

* `Vsomeip.Takeover.offerService_outcome` — what becomes of an offer.
* `Vsomeip.RoutingHost.unaffected_forbidden_iff` — when an offer that is forbidden has no effect.
-/

namespace Vsomeip

/-! ## Offers that are rejected -/

namespace LocalOffers

/-- `routing_manager_base::offer_service` refuses an offer: the service info of the instance is remote,
or has another version. -/
def Refuses (s : LocalOffers) (k : InstanceKey) (version : Version) : Prop :=
  ∃ info, s.services k = some info ∧ ¬ (info.isLocal = true ∧ info.version = version)

variable {cfg : OfferConfig} {s : LocalOffers} {k : InstanceKey} {client : UInt16} {version : Version}

/-- An offer that is not refused is made. -/
lemma baseOfferService_of_not_refuses (h : ¬ s.Refuses k version) :
    (s.baseOfferService k version).2 = true := by
  rw [baseOfferService]
  cases hk : s.services k with
  | none => rfl
  | some info =>
    have hfits : info.isLocal = true ∧ info.version = version := not_not.mp fun hnot => h ⟨info, hk, hnot⟩
    simp [hfits.1, hfits.2]

/-- An offer that is refused changes nothing. -/
lemma baseOfferService_of_refuses (h : s.Refuses k version) :
    s.baseOfferService k version = (s, false) := by
  obtain ⟨info, hk, hnot⟩ := h
  rw [baseOfferService, hk]
  exact congrArg (Prod.mk s) (by simpa using hnot)

/-- An offer that is not held up is accepted exactly if it is not refused. -/
lemma offerService_cases (cfg : OfferConfig)
    (hfree : ∀ v c, s.localServices k = some (v, c) → v = version ∧ c ≠ client) :
    (¬ s.Refuses k version ∧ (s.offerService cfg k client version true).2 = true ∧
      (s.offerService cfg k client version true).1.localServices k = some (version, client)) ∨
    (s.Refuses k version ∧ s.offerService cfg k client version true = (s, false)) := by
  have hhandle := handleLocalOfferService_of_free hfree
  by_cases hrefuses : s.Refuses k version
  · refine .inr ⟨hrefuses, ?_⟩
    rw [baseOfferService_of_refuses hrefuses, if_neg Bool.false_ne_true] at hhandle
    rw [offerService, hhandle]
    rfl
  · rw [if_pos (baseOfferService_of_not_refuses hrefuses)] at hhandle
    obtain ⟨haccepted, hlocal, -⟩ := offerService_of_handled cfg hhandle
    refine .inl ⟨hrefuses, haccepted, ?_⟩
    rw [hlocal]
    exact Function.update_self ..

/-- An offer that the policy forbids is not published. -/
lemma stub_offerService (hclient : client ≠ routingClient)
    (hforbidden : cfg.host.isOfferAllowed client k.1 k.2 = false) (unreachable : Bool) :
    (s.offerService cfg k client version unreachable).1.stub = s.stub := by
  have hbase : (s.baseOfferService k version).1.stub = s.stub := by
    rw [baseOfferService]
    split <;> rfl
  have hhandle : (s.handleLocalOfferService k client version unreachable).1.stub = s.stub := by
    rw [handleLocalOfferService]
    cases s.localServices k with
    | none =>
      dsimp only
      split <;> exact hbase
    | some stored =>
      dsimp only
      split
      · split <;> exact hbase
      · rfl
  have hnot : ¬ (client = routingClient ∨ cfg.host.isOfferAllowed client k.1 k.2 = true) := by
    simp [hclient, hforbidden]
  rw [offerService]
  generalize s.handleLocalOfferService k client version unreachable = x at hhandle
  dsimp only
  split
  · rw [RoutingManagerStub.onOfferService, if_neg hnot]
    split
    · exact (opens_initServiceInfo cfg x.1 k).stub.trans hhandle
    · exact hhandle
  · exact hhandle

end LocalOffers

namespace Takeover

/-- An offer is held up by the one that there is of the instance: that is in another version or by the
same client, another offer is pending, the client that was found is pinged, or it is the host. -/
def HeldUp (cfg : OfferConfig) (s : Takeover) (k : InstanceKey) (client : UInt16) (version : Version)
    (reach : Reach) (stored : Version × UInt16) : Prop :=
  stored.1 ≠ version ∨ stored.2 = client ∨ (∃ p, (k, p) ∈ s.pendingOffers) ∨
    (reach.hasEndpoint = true ∧ reach.pingSent = true) ∨
    (reach.hasEndpoint = false ∧ stored.2 = cfg.host.client)

/-- `handle_local_offer_service` rejects an offer: it is refused or held up. -/
def Rejects (cfg : OfferConfig) (s : Takeover) (k : InstanceKey) (client : UInt16) (version : Version)
    (reach : Reach) : Prop :=
  s.offers.Refuses k version ∨
    ∃ stored, s.offers.localServices k = some stored ∧ s.HeldUp cfg k client version reach stored

variable {cfg : OfferConfig} {s : Takeover} {k : InstanceKey} {client : UInt16} {version : Version}
  {reach : Reach}

/-- What becomes of an offer. -/
inductive Outcome (cfg : OfferConfig) (s : Takeover) (k : InstanceKey) (client : UInt16)
    (version : Version) (reach : Reach) (x : Takeover × OfferResult) : Prop
  /-- It is accepted, and the instance gets another entry in `local_services_`. -/
  | accepted (rejects : ¬ s.Rejects cfg k client version reach) (result : x.2 = .accepted)
    (localServices : x.1.offers.localServices k ≠ s.offers.localServices k)
  /-- It is rejected, and the tables of the offers are as before. -/
  | rejected (rejects : s.Rejects cfg k client version reach) (result : x.2 ≠ .accepted)
    (offers : x.1.offers = s.offers)

/-- What becomes of an offer that is not held up. -/
lemma accept_outcome (hfree : ∀ v c, s.offers.localServices k = some (v, c) → v = version ∧ c ≠ client)
    (hrejects : s.Rejects cfg k client version reach ↔ s.offers.Refuses k version) :
    Outcome cfg s k client version reach (s.accept cfg k client version) := by
  rcases LocalOffers.offerService_cases cfg hfree with ⟨hfits, hresult, hlocal⟩ | ⟨hrefuses, heq⟩
  · refine .accepted (fun h => hfits (hrejects.mp h)) ?_ ?_
    · rw [accept, hresult]
      rfl
    · rw [accept, hlocal]
      intro hsame
      exact (hfree version client hsame.symm).2 rfl
  · refine .rejected (hrejects.mpr hrefuses) ?_ ?_
    · rw [accept, heq]
      exact OfferResult.noConfusion
    · rw [accept, heq]

/-- **What becomes of an offer.** -/
lemma offerService_outcome (cfg : OfferConfig) (s : Takeover) (k : InstanceKey) (client : UInt16)
    (version : Version) (reach : Reach) :
    Outcome cfg s k client version reach (s.offerService cfg k client version reach) := by
  rw [offerService]
  cases hk : s.offers.localServices k with
  | none =>
    refine accept_outcome (fun v c h => ?_) ?_
    · rw [hk] at h
      cases h
    · simp [Rejects, hk]
  | some stored =>
    obtain ⟨v, c⟩ := stored
    have hrejected {result : OfferResult} {pending : List (InstanceKey × PendingOffer)}
        (hheld : s.HeldUp cfg k client version reach (v, c)) (hresult : result ≠ .accepted) :
        Outcome cfg s k client version reach ({ s with pendingOffers := pending }, result) :=
      .rejected (.inr ⟨(v, c), hk, hheld⟩) hresult rfl
    have haccept (hopen : ¬ s.HeldUp cfg k client version reach (v, c)) :
        Outcome cfg s k client version reach (s.accept cfg k client version) := by
      refine accept_outcome (fun v' c' h => ?_) (or_iff_left ?_)
      · rw [hk, Option.some.injEq] at h
        cases h
        exact ⟨not_not.mp fun hne => hopen (.inl hne), fun heq => hopen (.inr (.inl heq))⟩
      · rintro ⟨stored, h, hheld⟩
        rw [hk, Option.some.injEq] at h
        exact hopen (h ▸ hheld)
    dsimp only
    by_cases hversion : v = version
    · rw [if_pos hversion]
      by_cases hclient : c = client
      · rw [if_pos hclient]
        exact hrejected (.inr (.inl hclient)) (by decide)
      · rw [if_neg hclient]
        by_cases hpending : s.pendingOffers.any fun x => x.1 = k
        · rw [if_pos hpending]
          obtain ⟨⟨k', p⟩, hmem, hkey⟩ := List.any_eq_true.mp hpending
          obtain rfl : k' = k := by simpa using hkey
          exact hrejected (.inr (.inr (.inl ⟨p, hmem⟩))) (by decide)
        · rw [if_neg hpending]
          have hnone (p : PendingOffer) : (k, p) ∉ s.pendingOffers := not_mem_of_any hpending p
          cases hendpoint : reach.hasEndpoint with
          | true =>
            rw [if_pos rfl]
            cases hping : reach.pingSent with
            | true => exact hrejected (.inr (.inr (.inr (.inl ⟨hendpoint, hping⟩)))) (by decide)
            | false => exact haccept (by simp [HeldUp, hversion, hclient, hnone, hendpoint, hping])
          | false =>
            rw [if_neg Bool.false_ne_true]
            by_cases hhost : c = cfg.host.client
            · rw [if_pos hhost]
              exact hrejected (.inr (.inr (.inr (.inr ⟨hendpoint, hhost⟩)))) (by decide)
            · rw [if_neg hhost]
              exact haccept (by simp [HeldUp, hversion, hclient, hnone, hendpoint, hhost])
    · rw [if_neg hversion]
      exact hrejected (.inl hversion) (by decide)

end Takeover

/-! ## Offers that are forbidden -/

namespace RoutingHost

/-- A command has no effect: the tables of the offers, `routing_info_` and what is reported are the
same. This is about the command itself. The offer can have been put into `pending_offers_`, and be made
later on by `handle_client_error`. -/
structure Unaffected (s s' : RoutingHost) : Prop extends SameOffers s s' where
  serverEndpoints : s'.offers.serverEndpoints = s.offers.serverEndpoints
  routingInfo : s'.offers.stub.routingInfo = s.offers.stub.routingInfo
  reported : s'.reported = s.reported

variable {cfg : OfferConfig} {s : RoutingHost} {k : InstanceKey} {client : UInt16} {version : Version}
  {reach : Reach}

/-- States that agree in the tables are unaffected. -/
lemma unaffected_of_offers {s' : RoutingHost} (hoffers : s'.offers = s.offers) (httl : s'.ttl = s.ttl)
    (hdiscovery : s'.discovery = s.discovery) (hreported : s'.reported = s.reported) :
    Unaffected s s' where
  localServices := by rw [hoffers]
  services := by rw [hoffers]
  ttl := httl
  endpoints := by rw [hoffers]
  serviceInstances := by rw [hoffers]
  discovery := hdiscovery
  reported := hreported
  serverEndpoints := by rw [hoffers]
  routingInfo := by rw [hoffers]

/-- An offer has no effect exactly if it is rejected. -/
lemma unaffected_offerService_iff (cfg : OfferConfig) (s : RoutingHost) (k : InstanceKey)
    (client : UInt16) (version : Version) (reach : Reach) :
    Unaffected s (s.offerService k cfg client version reach) ↔
      s.takeover.Rejects cfg k client version reach := by
  rw [offerService]
  cases Takeover.offerService_outcome cfg s.takeover k client version reach with
  | accepted rejects result localServices =>
    refine iff_of_false (fun h => localServices ?_) rejects
    have hsame := h.localServices
    dsimp only at hsame
    rw [if_pos result] at hsame
    exact congrFun hsame k
  | rejected rejects result offers =>
    refine iff_of_true ?_ rejects
    dsimp only
    rw [if_neg result]
    exact unaffected_of_offers offers rfl rfl rfl

/-- The table that is protected: an offer that is forbidden is not published. -/
lemma routingInfo_offerService (hclient : client ≠ routingClient)
    (hforbidden : cfg.host.isOfferAllowed client k.1 k.2 = false) :
    (s.offerService k cfg client version reach).offers.stub.routingInfo =
      s.offers.stub.routingInfo := by
  have hstub : (s.takeover.offerService cfg k client version reach).1.offers.stub =
      s.takeover.offers.stub := by
    have haccept : (s.takeover.accept cfg k client version).1.offers.stub = s.takeover.offers.stub :=
      LocalOffers.stub_offerService hclient hforbidden true
    rw [Takeover.offerService]
    split
    · exact haccept
    · split_ifs <;> first | exact haccept | rfl
  rw [offerService]
  dsimp only
  split <;> exact congrArg RoutingManagerStub.routingInfo hstub

/-- **An offer that the policy forbids has no effect** exactly if the command does not come from its
client, or the offer is rejected for another reason. One that is rejected because it waits for the
provider is made when that does not answer. Only `routing_info_` is never affected, but by an offer of the
routing client. -/
theorem unaffected_forbidden_iff (cfg : HostConfig) (s : RoutingHost) (client boundClient : UInt16)
    (k : InstanceKey) (version : Version) (reach : Reach)
    (hforbidden : cfg.policies.isOfferAllowed client k = false) :
    let s' := s.onMessage cfg boundClient reach (offerCommand client k version)
    (Unaffected s s' ↔
      boundClient ≠ client ∨ s.takeover.Rejects cfg.offers k client version reach) ∧
    (client ≠ routingClient → s'.offers.stub.routingInfo = s.offers.stub.routingInfo) := by
  have henabled := (SecurityPolicies.enabled_of_isOfferAllowed hforbidden).1
  dsimp only
  rw [onMessage_offerCommand, henabled]
  by_cases hbound : boundClient = client
  · rw [if_neg (by simp [hbound]), unaffected_offerService_iff]
    refine ⟨(or_iff_right (not_not.mpr hbound)).symm, fun hclient => ?_⟩
    exact routingInfo_offerService hclient ((cfg.isOfferAllowed_eq client k.1 k.2).trans hforbidden)
  · rw [if_pos (by simp [hbound])]
    exact ⟨iff_of_true (unaffected_of_offers rfl rfl rfl rfl) (.inl hbound), fun _ => rfl⟩

/-! ## A client that may not offer anything -/

/-- The client 0x101 may not offer any instance. -/
def examplePolicies : SecurityPolicies where
  policyEnabled := true
  checkCredentials := true
  policies := fun c => if c = 0x101 then some ⟨true, []⟩ else none

/-- Instance 1 of service 1 has a port, and there is a service discovery. -/
def exampleConfig : HostConfig where
  offers := { LocalOffers.onePort 30509 with
    discovery := true
    host := { (LocalOffers.onePort 30509).host with
      isOfferAllowed := fun client service instance_ =>
        examplePolicies.isOfferAllowed client (service, instance_) } }
  policies := examplePolicies
  isClientAllowed := fun _ _ _ => true
  isOfferedRemote := fun _ _ => true
  isOfferAllowed_eq := fun _ _ _ => rfl

/-- The offer of the example is forbidden. -/
lemma forbidden_example : exampleConfig.policies.isOfferAllowed 0x101 (1, 1) = false := by decide

/-- At the start no offer is rejected. -/
lemma not_rejects_init {client : UInt16} {reach : Reach} :
    ¬ (init exampleConfig.offers).takeover.Rejects exampleConfig.offers (1, 1) client ⟨1, 0⟩
      reach := by
  rintro (⟨info, h, -⟩ | ⟨stored, h, -⟩)
  · cases h
  · cases h

/-- The instance is offered by the client 0x102. -/
def exampleOffered : RoutingHost :=
  (init exampleConfig.offers).onMessage exampleConfig 0x102 ⟨false, false⟩
    (offerCommand 0x102 (1, 1) ⟨1, 0⟩)

/-- An offer of another version on the own connection of the client is rejected. -/
theorem unaffected_forbidden_rejected : Unaffected exampleOffered
    (exampleOffered.onMessage exampleConfig 0x101 ⟨false, false⟩ (offerCommand 0x101 (1, 1) ⟨2, 0⟩)) :=
  (unaffected_forbidden_iff exampleConfig exampleOffered 0x101 0x101 (1, 1) ⟨2, 0⟩ ⟨false, false⟩
    forbidden_example).1.mpr (.inr (.inr ⟨(⟨1, 0⟩, 0x102), by decide, .inl (by decide)⟩))

/-- **A forbidden offer with an effect**: the client offers an instance at the start. -/
theorem not_unaffected_forbidden : ¬ ∀ (cfg : HostConfig) (s : RoutingHost) (client : UInt16)
    (k : InstanceKey) (version : Version) (reach : Reach),
    cfg.policies.policyEnabled = true → cfg.policies.checkCredentials = true →
    cfg.policies.isOfferAllowed client k = false →
    Unaffected s (s.onMessage cfg client reach (offerCommand client k version)) := by
  intro h
  have hoffer := h exampleConfig (init exampleConfig.offers) 0x101 (1, 1) ⟨1, 0⟩ ⟨false, false⟩ rfl
    rfl forbidden_example
  rw [onMessage_offerCommand, if_neg (by decide), unaffected_offerService_iff] at hoffer
  exact not_rejects_init hoffer

end RoutingHost

end Vsomeip
