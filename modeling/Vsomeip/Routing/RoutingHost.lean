import Vsomeip.Routing.CommandCodec
import Vsomeip.Routing.EventRegistry
import Vsomeip.Routing.OfferExpiry
import Vsomeip.Routing.Takeover
import Vsomeip.ServiceDiscovery.OfferPhase

set_option relaxedAutoImplicit false
set_option autoImplicit false

/-!
# Offers and all that they have an effect on

`routing_manager_impl::offer_service` and `stop_offer_service` change the tables of `Takeover`, and in
addition the time to live of the service info, the offers of the service discovery, the events of the
instance, and what is reported to the application of the host by `on_availability`. Both are called by
the stub for a command of a client.

The policy of a client says which instances it may offer. It is only asked when the offer is published
in `routing_info_`.

Pending subscriptions of the application of the host, and those of remote subscribers, are left out.

## Main definitions

* `Vsomeip.SecurityPolicies.isOfferAllowed` — `configuration_impl::is_offer_allowed`.
* `Vsomeip.RoutingHost` — the routing manager.
* `Vsomeip.RoutingHost.offerService`, `Vsomeip.RoutingHost.stopOfferService` — the operations.
* `Vsomeip.RoutingHost.onMessage` — the commands of a client.
* `Vsomeip.RoutingHost.SameOffers` — what an operation should not touch.

## Main results

* `Vsomeip.RoutingHost.onMessage_offerCommand` — what the stub does with an OFFER_SERVICE.
-/

namespace Vsomeip

open Function (update)
open Command

/-! ## Policies -/

/-- A `policy`, with what is about offers. -/
structure Policy where
  allowWhat : Bool
  offers : List InstanceKey

/-- The policies of the configuration. Without a check of credentials it is in audit mode. -/
structure SecurityPolicies where
  policyEnabled : Bool
  checkCredentials : Bool
  policies : UInt16 → Option Policy

/-- `configuration_impl::is_offer_allowed`. The policy of any client is used for a client without one. -/
def SecurityPolicies.isOfferAllowed (p : SecurityPolicies) (client : UInt16) (k : InstanceKey) : Bool :=
  if !p.policyEnabled then true
  else
    match (p.policies client).or (p.policies 0xFFFF) with
    | none => !p.checkCredentials
    | some policy =>
      if policy.allowWhat && policy.offers.contains k then true
      else if !policy.allowWhat && !policy.offers.contains k then true
      else !p.checkCredentials

/-- No offer is forbidden without policies, or in audit mode. -/
lemma SecurityPolicies.enabled_of_isOfferAllowed {p : SecurityPolicies} {client : UInt16}
    {k : InstanceKey} (h : p.isOfferAllowed client k = false) :
    p.policyEnabled = true ∧ p.checkCredentials = true := by
  rw [isOfferAllowed] at h
  cases henabled : p.policyEnabled with
  | false => simp [henabled] at h
  | true =>
    refine ⟨rfl, ?_⟩
    rw [henabled, if_neg (by decide)] at h
    split at h
    · simpa using h
    · split_ifs at h
      simpa using h

/-- What the routing manager asks its configuration, with the policies. -/
structure HostConfig where
  offers : OfferConfig
  policies : SecurityPolicies
  isClientAllowed : UInt16 → UInt16 → UInt16 → Bool
  isOfferedRemote : UInt16 → UInt16 → Bool
  isOfferAllowed_eq : ∀ client service instance_,
    offers.host.isOfferAllowed client service instance_ =
      policies.isOfferAllowed client (service, instance_)

/-- What the stub asks for a command on the connection of a client. -/
def HostConfig.stub (cfg : HostConfig) (boundClient : UInt16) : StubConfig where
  isSecurityEnabled := cfg.policies.policyEnabled
  isClientAllowed := cfg.isClientAllowed
  isOfferedRemote := cfg.isOfferedRemote
  boundClient := boundClient
  client := cfg.offers.host.client

/-! ## The routing manager -/

namespace Event

/-- `event::unset_payload` without `_force`. -/
def unsetProvidedPayload (ev : Event) : Event :=
  if ev.isProvided then ev.unsetPayload else ev

/-- `event::clear_subscribers`. -/
def clearSubscribers (ev : Event) : Event :=
  { ev with eventgroups := ev.eventgroups.map fun _ _ => ∅ }

end Event

/-- A call of `on_availability` of the application of the host. -/
structure Availability where
  service : InstanceKey
  isAvailable : Bool
  version : Version
deriving DecidableEq

/-- The routing manager, with all that an offer has an effect on. -/
structure RoutingHost where
  takeover : Takeover
  /-- The time to live of the service infos. -/
  ttl : InstanceKey → UInt32
  /-- The serial numbers of the service infos, by which the service discovery knows them. -/
  serial : InstanceKey → ℕ
  nextSerial : ℕ
  discovery : Sd.OfferPhase
  events : InstanceKey → UInt16 → Option Event
  /-- The calls of `on_availability` up to now. -/
  reported : List Availability

namespace RoutingHost

/-- The routing manager after its start. -/
def init (cfg : OfferConfig) : RoutingHost where
  takeover := .init cfg
  ttl := fun _ => 0
  serial := fun _ => 0
  nextSerial := 0
  discovery := .init
  events := fun _ _ => none
  reported := []

variable (s : RoutingHost) (k : InstanceKey)

/-- The tables of `LocalOffers`. -/
def offers : LocalOffers := s.takeover.offers

/-- The service info of an instance, as the service discovery knows it. -/
def info : Sd.ServiceInfo := ⟨k.1, k.2, s.serial k⟩

/-- The part of `routing_manager_base::offer_service` that is about the service info: a new one, or the
time to live of the one that is there. -/
def renewInfo : RoutingHost :=
  if (s.offers.services k).isNone then
    { s with
      ttl := update s.ttl k RemoteTtl.defaultTtl
      serial := update s.serial k s.nextSerial
      nextSerial := s.nextSerial + 1 }
  else { s with ttl := update s.ttl k RemoteTtl.defaultTtl }

/-- `routing_manager_impl::offer_service`. -/
def offerService (cfg : OfferConfig) (client : UInt16) (version : Version) (reach : Reach) :
    RoutingHost :=
  let x := s.takeover.offerService cfg k client version reach
  if x.2 = .accepted then
    let s' := s.renewInfo k
    { s' with
      takeover := x.1
      discovery :=
        if cfg.discovery && (x.1.offers.services k).isSome then s'.discovery.offerService (s'.info k)
        else s'.discovery
      reported := s'.reported ++ [⟨k, true, version⟩] }
  else { s with takeover := x.1 }

/-- What `routing_manager_base::stop_offer_service` does to the events of the instance. -/
def stopEvents : RoutingHost :=
  { s with
    events := update s.events k fun e =>
      (s.events k e).map fun ev => ev.unsetProvidedPayload.clearSubscribers }

/-- The part of `on_stop_offer_service` that tells the service discovery, if the version is that of the
service info. -/
def stopDiscovery (version : Version) : RoutingHost :=
  match s.offers.services k with
  | none => s
  | some info =>
    if info.version = version then
      { s with
        ttl := update s.ttl k 0
        discovery := s.discovery.stopOfferService (s.info k) }
    else s

/-- What `del_routing_info` reports, which is called without a service discovery. -/
def reportDeleted : RoutingHost :=
  match s.offers.services k with
  | none => s
  | some info => { s with reported := s.reported ++ [⟨k, false, info.version⟩] }

/-- `routing_manager_impl::stop_offer_service`. -/
def stopOfferService (cfg : OfferConfig) (client : UInt16) (version : Version) : RoutingHost :=
  let s' := s.stopEvents k
  let s' := if cfg.discovery then s'.stopDiscovery k version else s'.reportDeleted k
  { s' with
    takeover := s'.takeover.stopOfferService cfg k client version
    reported := s'.reported ++ [⟨k, false, version⟩] }

/-! ## Commands -/

/-- The calls of the stub that are about offers. -/
def onCall (cfg : HostConfig) (reach : Reach) (s : RoutingHost) : StubCall → RoutingHost
  | .offerService client service instance_ major minor =>
    s.offerService (service, instance_) cfg.offers client ⟨major, minor⟩ reach
  | .stopOfferService client service instance_ major minor =>
    s.stopOfferService (service, instance_) cfg.offers client ⟨major, minor⟩
  | _ => s

/-- `routing_manager_stub::on_message`, for a command on the connection of a client. -/
def onMessage (cfg : HostConfig) (boundClient : UInt16) (reach : Reach) (data : List UInt8) :
    RoutingHost :=
  match StubCommand.onMessage (cfg.stub boundClient) data with
  | .ok calls => calls.foldl (onCall cfg reach) s
  | .error _ => s

/-- `routing_manager_proxy::send_offer_service`. -/
def offerCommand (client : UInt16) (k : InstanceKey) (version : Version) : List UInt8 :=
  header 0x10 client 9 ++ (ofWord k.1 ++ (ofWord k.2 ++ (version.major :: ofLong version.minor)))

/-- What the stub makes of an OFFER_SERVICE. -/
lemma stub_onMessage_offerCommand (cfg : StubConfig) (client : UInt16) (k : InstanceKey)
    (version : Version) : StubCommand.onMessage cfg (offerCommand client k version) =
      if cfg.isSecurityEnabled && cfg.boundClient != client then .ok []
      else .ok [.offerService client k.1 k.2 version.major version.minor] := by
  rw [offerCommand, StubCommand.onMessage_header cfg (by rfl)]
  refine if_congr Iff.rfl rfl ?_
  generalize hdata : header 0x10 client 9 ++
    (ofWord k.1 ++ (ofWord k.2 ++ (version.major :: ofLong version.minor))) = data
  have hservice : word data payloadPos = .ok k.1 := word_of_drop_ofWord (by rw [← hdata, drop_header])
  have hinstance : word data (payloadPos + 2) = .ok k.2 := word_of_drop_ofWord (by rw [← hdata]; rfl)
  have hmajor : byte data (payloadPos + 4) = .ok version.major := byte_of_drop (by rw [← hdata]; rfl)
  have hminor : long data (payloadPos + 5) = .ok version.minor :=
    @long_of_drop data [] _ _ (by rw [← hdata]; rfl)
  change StubCommand.offerService data client = _
  rw [StubCommand.offerService, Command.ofSize, if_neg (not_not.mpr (by rw [← hdata]; rfl)), hservice, hinstance,
    hmajor, hminor]
  rfl

/-- **An OFFER_SERVICE** on the connection of its client is an offer, whatever the policies say. -/
lemma onMessage_offerCommand (cfg : HostConfig) (s : RoutingHost) (client boundClient : UInt16)
    (k : InstanceKey) (version : Version) (reach : Reach) :
    s.onMessage cfg boundClient reach (offerCommand client k version) =
      if cfg.policies.policyEnabled && boundClient != client then s
      else s.offerService k cfg.offers client version reach := by
  rw [onMessage, stub_onMessage_offerCommand]
  change (match (if cfg.policies.policyEnabled && boundClient != client then _ else _ :
    Except Fault (List StubCall)) with | .ok calls => _ | .error _ => s) = _
  split_ifs <;> rfl

/-! ## What is not touched -/

/-- The events of an instance after they are stopped. -/
@[simp] lemma events_stopEvents_self (s : RoutingHost) (k : InstanceKey) (e : UInt16) :
    (s.stopEvents k).events k e =
      (s.events k e).map fun ev => ev.unsetProvidedPayload.clearSubscribers := by
  simp only [stopEvents, Function.update_self]

/-- The events of other instances stay. -/
lemma events_stopEvents_of_ne (s : RoutingHost) {k k' : InstanceKey} (hk : k' ≠ k) :
    (s.stopEvents k).events k' = s.events k' := by
  simp only [stopEvents, Function.update_of_ne hk]

/-- The tables in which offers are kept are the same. -/
structure SameOffers (s s' : RoutingHost) : Prop where
  localServices : s'.offers.localServices = s.offers.localServices
  services : s'.offers.services = s.offers.services
  ttl : s'.ttl = s.ttl
  endpoints : s'.offers.endpoints = s.offers.endpoints
  serviceInstances : s'.offers.serviceInstances = s.offers.serviceInstances
  discovery : s'.discovery = s.discovery

end RoutingHost

end Vsomeip
