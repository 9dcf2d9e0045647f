import Mathlib.Data.Finset.Basic
import Vsomeip.Lib.Runs
import Vsomeip.ServiceDiscovery.Entry
import Vsomeip.ServiceDiscovery.Option
import Vsomeip.ServiceDiscovery.SubscribeAnswer
import Vsomeip.ServiceDiscovery.Subscription

set_option relaxedAutoImplicit false
set_option autoImplicit false

/-!
# Types of remote offers

For every instance that is offered by another host, the service discovery remembers in
`remote_offer_types_` by which protocols it is offered, and in `remote_offers_by_ip_` which instances
an address offers, so that it can forget them all when the host is rebooted. An offer is entered under
its own address, but it is not taken out from the address of an earlier offer, and the end of an offer
takes it out from the address that is in the options of the stop offer entry only, in which a reliable
endpoint comes before an unreliable one.

## Main definitions

* `Vsomeip.Sd.RemoteOffers` — the two tables.
* `Vsomeip.Sd.RemoteOffers.processServiceentry`, `removeRemoteOfferTypeByIp` — what changes them.
* `Vsomeip.Sd.RemoteOffers.Exact` — they say which address offers an instance.

## Main results

* `Vsomeip.Sd.RemoteOffers.exact_along_iff` — the tables are exact along a run if and only if an
  instance never moves to another address, and stop offers name the address of the offer.
-/

namespace Vsomeip.Sd

/-! ## Endpoints of an entry -/

/-- `boost::asio::ip::address`. -/
inductive IpAddress
  | v4 (bytes : List.Vector UInt8 4)
  | v6 (bytes : List.Vector UInt8 16)
deriving DecidableEq

namespace IpAddress

/-- An address that was not assigned. -/
def unassigned : IpAddress :=
  .v4 ⟨[0, 0, 0, 0], rfl⟩

/-- The unspecified address. -/
def isUnspecified : IpAddress → Bool
  | .v4 bytes => bytes.toList.all (· = 0)
  | .v6 bytes => bytes.toList.all (· = 0)

end IpAddress

/-- The addresses and ports that `process_serviceentry` reads from the options of an entry. -/
structure ServiceEndpoints where
  reliableAddress : IpAddress
  reliablePort : UInt16
  unreliableAddress : IpAddress
  unreliablePort : UInt16

namespace ServiceEndpoints

/-- No endpoints. -/
def init : ServiceEndpoints :=
  ⟨.unassigned, illegalPort, .unassigned, illegalPort⟩

/-- An endpoint option. -/
def set (x : ServiceEndpoints) (address : IpAddress) (protocol : LayerFourProtocol) (port : UInt16) :
    ServiceEndpoints :=
  if protocol = .udp then { x with unreliableAddress := address, unreliablePort := port }
  else { x with reliableAddress := address, reliablePort := port }

/-- The switch of `process_serviceentry` on the type of an option. -/
def read (x : ServiceEndpoints) : SdOption → ServiceEndpoints
  | .ipv4 o => if o.type = .ip4Endpoint then x.set (.v4 o.address) o.protocol o.port else x
  | .ipv6 o => if o.type = .ip6Endpoint then x.set (.v6 o.address) o.protocol o.port else x
  | _ => x

/-- The endpoints of an entry, from the options of its message. -/
def ofEntry (entry : ServiceentryImpl) (options : List SdOption) : ServiceEndpoints :=
  (entry.options1 ++ entry.options2).foldl
    (fun x index => (options[index.toNat]?).elim x x.read) init

variable (x : ServiceEndpoints)

/-- The type of an offer with these endpoints. -/
def offerType : RemoteOfferType :=
  if x.reliablePort ≠ illegalPort ∧ x.unreliablePort ≠ illegalPort ∧
      !x.reliableAddress.isUnspecified ∧ !x.unreliableAddress.isUnspecified then .reliableUnreliable
  else if x.unreliablePort ≠ illegalPort ∧ !x.unreliableAddress.isUnspecified then .unreliable
  else if x.reliablePort ≠ illegalPort ∧ !x.reliableAddress.isUnspecified then .reliable
  else .unknown

/-- The address from which a stop offer with these endpoints takes an instance out. -/
def stopAddress : IpAddress :=
  if x.reliablePort ≠ illegalPort then x.reliableAddress else x.unreliableAddress

/-- The address of an offer: that of the unreliable endpoint, if there is one. -/
def address : IpAddress :=
  if x.unreliablePort ≠ illegalPort ∧ !x.unreliableAddress.isUnspecified then x.unreliableAddress
  else x.reliableAddress

end ServiceEndpoints

/-! ## The tables -/

/-- `remote_offer_types_` and `remote_offers_by_ip_`. -/
structure RemoteOffers where
  remoteOfferTypes : UInt16 × UInt16 → Option RemoteOfferType
  remoteOffersByIp : IpAddress → Finset (UInt16 × UInt16)

namespace RemoteOffers

/-- No offers. -/
def init : RemoteOffers :=
  ⟨fun _ => none, fun _ => ∅⟩

variable (s : RemoteOffers) (k : UInt16 × UInt16)

/-- An instance is entered under an address. -/
def insertByIp (a : IpAddress) : RemoteOffers :=
  { s with
    remoteOffersByIp := Function.update s.remoteOffersByIp a (insert k (s.remoteOffersByIp a)) }

/-- `service_discovery_impl::update_remote_offer_type`. -/
def updateRemoteOfferType (offerType : RemoteOfferType) (reliableAddress unreliableAddress : IpAddress) :
    RemoteOffers :=
  let s := { s with remoteOfferTypes := Function.update s.remoteOfferTypes k (some offerType) }
  match offerType with
  | .unreliable => s.insertByIp k unreliableAddress
  | .reliable => s.insertByIp k reliableAddress
  | .reliableUnreliable => s.insertByIp k unreliableAddress
  | .unknown => s

/-- `service_discovery_impl::remove_remote_offer_type`. -/
def removeRemoteOfferType (a : IpAddress) : RemoteOffers where
  remoteOfferTypes := Function.update s.remoteOfferTypes k none
  remoteOffersByIp := Function.update s.remoteOffersByIp a ((s.remoteOffersByIp a).erase k)

/-- `service_discovery_impl::remove_remote_offer_type_by_ip`. -/
def removeRemoteOfferTypeByIp (a : IpAddress) : RemoteOffers where
  remoteOfferTypes := fun k => if k ∈ s.remoteOffersByIp a then none else s.remoteOfferTypes k
  remoteOffersByIp := Function.update s.remoteOffersByIp a ∅

/-- The service and the instance of an entry. -/
def key (entry : ServiceentryImpl) : UInt16 × UInt16 :=
  (entry.service, entry.instance_)

/-- `service_discovery_impl::process_serviceentry`, of which only what it does to the tables is
modelled. -/
def processServiceentry (entry : ServiceentryImpl) (options : List SdOption) : RemoteOffers :=
  let x := ServiceEndpoints.ofEntry entry options
  if 0 < entry.ttl then
    match entry.type with
    | .offerService =>
      s.updateRemoteOfferType (key entry) x.offerType x.reliableAddress x.unreliableAddress
    | _ => s
  else s.removeRemoteOfferType (key entry) x.stopAddress

/-! ## Runs -/

/-- What happens: an entry of a message with some options is processed, or a host is rebooted. -/
inductive Event
  | entry (entry : ServiceentryImpl) (options : List SdOption)
  | reboot (a : IpAddress)

/-- The tables, and who offers what: the address of the current offer of each instance. -/
structure World where
  tables : RemoteOffers
  offered : UInt16 × UInt16 → Option IpAddress

/-- The current offers after an event. -/
def offeredAfter (offered : UInt16 × UInt16 → Option IpAddress) :
    Event → UInt16 × UInt16 → Option IpAddress
  | .entry entry options =>
    if 0 < entry.ttl then
      if entry.type = .offerService then
        Function.update offered (key entry) (some (ServiceEndpoints.ofEntry entry options).address)
      else offered
    else Function.update offered (key entry) none
  | .reboot a => fun k => if offered k = some a then none else offered k

/-- The tables and the current offers after an event. -/
def step (w : World) (e : Event) : World where
  tables :=
    match e with
    | .entry entry options => w.tables.processServiceentry entry options
    | .reboot a => w.tables.removeRemoteOfferTypeByIp a
  offered := offeredAfter w.offered e

/-- The tables say which address offers an instance, so that a reboot of a host removes the types of
the instances that it offers, and no others. -/
structure Exact (w : World) : Prop where
  types : ∀ k, (w.tables.remoteOfferTypes k).isSome ↔ (w.offered k).isSome
  byIp : ∀ k a, k ∈ w.tables.remoteOffersByIp a ↔ w.offered k = some a
  reboot : ∀ k a, (w.tables.removeRemoteOfferTypeByIp a).remoteOfferTypes k =
    if w.offered k = some a then none else w.tables.remoteOfferTypes k

/-- An offer is by a reliable endpoint, an unreliable one or both. -/
def HasEndpoint : Event → Prop
  | .entry entry options => 0 < entry.ttl → entry.type = .offerService →
    (ServiceEndpoints.ofEntry entry options).offerType ≠ .unknown
  | .reboot _ => True

instance : DecidablePred HasEndpoint
  | .entry entry options => inferInstanceAs (Decidable (0 < entry.ttl → entry.type = .offerService →
      (ServiceEndpoints.ofEntry entry options).offerType ≠ .unknown))
  | .reboot _ => inferInstanceAs (Decidable True)

/-- If an instance is offered, it does not move to another address, and a stop offer names the address
of the offer. -/
def Stays (w : World) : Event → Prop
  | .entry entry options => ∀ a ∈ w.offered (key entry),
    if 0 < entry.ttl then
      entry.type = .offerService → (ServiceEndpoints.ofEntry entry options).address = a
    else (ServiceEndpoints.ofEntry entry options).stopAddress = a
  | .reboot _ => True

instance (w : World) : DecidablePred (Stays w)
  | .entry entry options => inferInstanceAs (Decidable (∀ a ∈ w.offered (key entry),
      if 0 < entry.ttl then
        entry.type = .offerService → (ServiceEndpoints.ofEntry entry options).address = a
      else (ServiceEndpoints.ofEntry entry options).stopAddress = a))
  | .reboot _ => inferInstanceAs (Decidable True)

/-! ## The steps -/

variable {w : World} {k : UInt16 × UInt16}

/-- An offer by some endpoint is entered under its address. -/
lemma updateRemoteOfferType_eq (s : RemoteOffers) {x : ServiceEndpoints} (hx : x.offerType ≠ .unknown) :
    s.updateRemoteOfferType k x.offerType x.reliableAddress x.unreliableAddress =
      insertByIp { s with
        remoteOfferTypes := Function.update s.remoteOfferTypes k (some x.offerType) } k x.address := by
  by_cases hunreliable : x.unreliablePort ≠ illegalPort ∧ !x.unreliableAddress.isUnspecified
  · have haddress : x.address = x.unreliableAddress := if_pos hunreliable
    have htype : x.offerType = .reliableUnreliable ∨ x.offerType = .unreliable := by
      rw [ServiceEndpoints.offerType, if_pos hunreliable]
      split
      · exact .inl rfl
      · exact .inr rfl
    rw [haddress]
    rcases htype with htype | htype <;> rw [htype] <;> rfl
  · have haddress : x.address = x.reliableAddress := if_neg hunreliable
    have htype : x.offerType = .reliable := by
      have hboth : ¬ (x.reliablePort ≠ illegalPort ∧ x.unreliablePort ≠ illegalPort ∧
          !x.reliableAddress.isUnspecified ∧ !x.unreliableAddress.isUnspecified) :=
        fun h => hunreliable ⟨h.2.1, h.2.2.2⟩
      rw [ServiceEndpoints.offerType, if_neg hboth, if_neg hunreliable] at hx ⊢
      by_cases hreliable : x.reliablePort ≠ illegalPort ∧ !x.reliableAddress.isUnspecified
      · exact if_pos hreliable
      · exact absurd (if_neg hreliable) hx
    rw [haddress, htype]
    rfl

/-- The offers by address after one is inserted. -/
lemma mem_insertByIp {s : RemoteOffers} {a a' : IpAddress} {k' : UInt16 × UInt16} :
    k' ∈ (s.insertByIp k a).remoteOffersByIp a' ↔
      k' ∈ s.remoteOffersByIp a' ∨ k' = k ∧ a' = a := by
  by_cases ha : a' = a
  · subst ha
    simp [insertByIp, or_comm]
  · simp [insertByIp, ha]

/-- The offers by address after one is removed. -/
lemma mem_removeRemoteOfferType {s : RemoteOffers} {a a' : IpAddress} {k' : UInt16 × UInt16} :
    k' ∈ (s.removeRemoteOfferType k a).remoteOffersByIp a' ↔
      k' ∈ s.remoteOffersByIp a' ∧ ¬ (k' = k ∧ a' = a) := by
  by_cases ha : a' = a
  · subst ha
    simp [removeRemoteOfferType, and_comm]
  · simp [removeRemoteOfferType, ha]

/-- If the tables list instances under the addresses of their offers, they are exact. -/
lemma Exact.of_byIp (htypes : ∀ k, (w.tables.remoteOfferTypes k).isSome ↔ (w.offered k).isSome)
    (hbyIp : ∀ k a, k ∈ w.tables.remoteOffersByIp a ↔ w.offered k = some a) : Exact w := by
  refine ⟨htypes, hbyIp, fun k a => ?_⟩
  simp only [removeRemoteOfferTypeByIp, hbyIp k a]

/-- The tables are exact at the start. -/
lemma exact_init : Exact ⟨init, fun _ => none⟩ :=
  .of_byIp (by simp [init]) (by simp [init])

/-- An offer leaves the tables exact if and only if the instance was not offered by another address. -/
lemma Exact.offer (hw : Exact w) {type : RemoteOfferType} {a : IpAddress} :
    Exact ⟨insertByIp { w.tables with
        remoteOfferTypes := Function.update w.tables.remoteOfferTypes k (some type) } k a,
      Function.update w.offered k (some a)⟩ ↔ ∀ a', w.offered k = some a' → a = a' := by
  constructor
  · intro h a' ha'
    have hmem : k ∈ w.tables.remoteOffersByIp a' := (hw.byIp k a').mpr ha'
    have hnew := (h.byIp k a').mp (mem_insertByIp.mpr (.inl hmem))
    simpa using hnew
  · intro h
    refine .of_byIp (fun k' => ?_) fun k' a' => ?_
    · by_cases hk : k' = k
      · simp [insertByIp, hk]
      · simpa [insertByIp, hk] using hw.types k'
    · simp only [mem_insertByIp, hw.byIp]
      by_cases hk : k' = k
      · subst hk
        rw [Function.update_self, Option.some.injEq]
        constructor
        · rintro (h' | ⟨-, rfl⟩)
          · exact h a' h'
          · rfl
        · rintro rfl
          exact .inr ⟨rfl, rfl⟩
      · simp [hk]

/-- The end of an offer leaves the tables exact if and only if it names the address of the offer. -/
lemma Exact.stopOffer (hw : Exact w) {a : IpAddress} :
    Exact ⟨w.tables.removeRemoteOfferType k a, Function.update w.offered k none⟩ ↔
      ∀ a', w.offered k = some a' → a = a' := by
  constructor
  · intro h a' ha'
    by_contra hne
    have hmem : k ∈ (w.tables.removeRemoteOfferType k a).remoteOffersByIp a' :=
      mem_removeRemoteOfferType.mpr ⟨(hw.byIp k a').mpr ha', fun h' => hne h'.2.symm⟩
    simpa using (h.byIp k a').mp hmem
  · intro h
    refine .of_byIp (fun k' => ?_) fun k' a' => ?_
    · by_cases hk : k' = k
      · simp [removeRemoteOfferType, hk]
      · simpa [removeRemoteOfferType, hk] using hw.types k'
    · simp only [mem_removeRemoteOfferType, hw.byIp]
      by_cases hk : k' = k
      · subst hk
        simpa using fun h' => (h a' h').symm
      · simp [hk]

/-- A reboot keeps the tables exact. -/
lemma Exact.rebooted (hw : Exact w) (a : IpAddress) : Exact (step w (.reboot a)) := by
  refine .of_byIp (fun k => ?_) fun k a' => ?_
  · simp only [step, offeredAfter, hw.reboot]
    by_cases ha : w.offered k = some a
    · simp [ha]
    · simpa [ha] using hw.types k
  · simp only [step, offeredAfter, removeRemoteOfferTypeByIp]
    by_cases ha : a' = a
    · subst ha
      by_cases hk : w.offered k = some a'
      · simp [hk]
      · simp [hk]
    · rw [Function.update_of_ne ha, hw.byIp]
      by_cases hk : w.offered k = some a
      · simp [hk, Ne.symm ha]
      · simp [hk]

/-- One event leaves the tables exact if and only if it does not move an instance. -/
lemma Exact.step_iff (hw : Exact w) {e : Event} (he : HasEndpoint e) : Exact (step w e) ↔ Stays w e := by
  cases e with
  | reboot a => exact iff_of_true (hw.rebooted a) trivial
  | entry entry options =>
    simp only [step, processServiceentry, offeredAfter, Stays]
    by_cases httl : 0 < entry.ttl
    · simp only [if_pos httl]
      by_cases htype : entry.type = .offerService
      · rw [htype]
        simp only [if_true, true_imp_iff]
        rw [updateRemoteOfferType_eq w.tables (he httl htype)]
        exact hw.offer
      · have hsame : (match entry.type with
            | .offerService => w.tables.updateRemoteOfferType (key entry)
                (ServiceEndpoints.ofEntry entry options).offerType
                (ServiceEndpoints.ofEntry entry options).reliableAddress
                (ServiceEndpoints.ofEntry entry options).unreliableAddress
            | _ => w.tables) = w.tables := by
          split
          · exact absurd ‹_› htype
          · rfl
        rw [hsame, if_neg htype]
        exact iff_of_true hw fun _ _ h => absurd h htype
    · simp only [if_neg httl]
      exact hw.stopOffer

/-- **The tables are exact along a run** of entries and reboots if and only if no instance moves to
another address while it is offered, and no offer is ended by a stop offer that names another address,
or none.

**Proof sketch.** An event that keeps an instance at its address keeps the tables exact, and one that
does not breaks them at once: the instance stays in the set of the address of the earlier offer. -/
theorem exact_along_iff {events : List Event} (hevents : ∀ e ∈ events, HasEndpoint e) :
    Runs.Along step (fun w e => Exact (step w e)) ⟨init, fun _ => none⟩ events ↔
      Runs.Along step Stays ⟨init, fun _ => none⟩ events := by
  refine @Runs.along_iff _ _ step Exact (fun _ e => HasEndpoint e) Stays (fun w e => Exact (step w e))
    (fun hw he hgood => ?_) (fun hw he hbad h => hbad ((hw.step_iff he).mp h)) _ _ exact_init
    (Runs.along_of_forall hevents)
  have hnext := (hw.step_iff he).mpr hgood
  exact ⟨hnext, hnext⟩

/-! ## An instance -/

/-- An entry for instance 1 of service 0x1234 with one option. -/
def exampleEntry (ttl : UInt32) : ServiceentryImpl :=
  { EntryImpl.init with
    type := .offerService, service := 0x1234, instance_ := 1, ttl, options1 := [0], minorVersion := 0 }

/-- An unreliable endpoint of host `10.0.0.h`. -/
def exampleOption (h : UInt8) : SdOption :=
  .ipv4 { length := 9, type := .ip4Endpoint, address := ⟨[10, 0, 0, h], rfl⟩, protocol := .udp,
          port := 30509 }

/-- The instance is offered by a host, which stops the offer, and then by another one. -/
theorem exact_along_example :
    Runs.Along step (fun w e => Exact (step w e)) ⟨init, fun _ => none⟩
      [.entry (exampleEntry 3) [exampleOption 1], .entry (exampleEntry 0) [exampleOption 1],
        .entry (exampleEntry 3) [exampleOption 2]] :=
  (exact_along_iff (by decide)).mpr ⟨by decide, by decide, by decide, trivial⟩

/-- The instance moves from a host to another one, and the first one is rebooted: the type of the
offer is forgotten. -/
theorem not_exact_moved :
    HasEndpoint (.entry (exampleEntry 3) [exampleOption 1]) ∧
    HasEndpoint (.entry (exampleEntry 3) [exampleOption 2]) ∧
    ¬ Exact (Runs.run step ⟨init, fun _ => none⟩
      [.entry (exampleEntry 3) [exampleOption 1], .entry (exampleEntry 3) [exampleOption 2]]) ∧
    (Runs.run step ⟨init, fun _ => none⟩
      [.entry (exampleEntry 3) [exampleOption 1], .entry (exampleEntry 3) [exampleOption 2],
        .reboot (.v4 ⟨[10, 0, 0, 1], rfl⟩)]).tables.remoteOfferTypes (0x1234, 1) = none := by
  refine ⟨by decide, by decide, fun h => ?_, by decide⟩
  have hmem := (h.byIp (0x1234, 1) (.v4 ⟨[10, 0, 0, 1], rfl⟩)).mp (by decide)
  revert hmem
  decide


end RemoteOffers

end Vsomeip.Sd
