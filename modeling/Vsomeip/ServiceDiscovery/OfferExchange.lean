import Mathlib.Data.List.Flatten
import Vsomeip.ServiceDiscovery.OnMessage

set_option relaxedAutoImplicit false
set_option autoImplicit false

/-!
# Offers between two nodes

A node announces its service instances by multicast, and answers FindService entries with offers of the
instances that match, by unicast or by multicast. Another node receives the messages and tells its
routing what is offered and what is offered no longer. The messages of each of the two channels arrive
in the order in which they were sent, but any of them can be lost; the channels are independent of each
other, and other nodes send what they like. The node sends other messages on the channels, too.

A record of each channel says what the messages say, and whether they are on their way, have arrived or
are lost. It depends on what happens to the messages only, and not on what the receiver does with them.

An offer that answers a FindService entry has the instance of that entry, which may be the one that
stands for any instance.

## Main definitions

* `Vsomeip.Sd.findAnswers` — the messages of `process_findservice_serviceentry`.
* `Vsomeip.Sd.OfferConfig.routingCalls` — what the routing of a receiver should be told of an instance.
* `Vsomeip.Sd.Exchange`, `Exchange.step` — the two nodes and the channels.
* `Vsomeip.Sd.Exchange.Event.record` — the record of a channel.
* `Vsomeip.Sd.Exchange.Inv` — the invariant.

## Main results

* `Vsomeip.Sd.OfferConfig.carries_announced` — a message with offers is understood as it was meant.
* `Vsomeip.Sd.Exchange.said_run` — the routing of the receiver is told exactly what the messages of a
  channel say that have arrived, which are all but those that are lost or on their way.
-/

namespace Vsomeip.Sd

open Reception

/-! ## What the options say -/

section Endpoints

/-- The indices of a run are counted from the first one. -/
lemma IsRun.map_toNat {run : List UInt8} (h : IsRun run) :
    run.map UInt8.toNat = List.range' (run.headD 0).toNat run.length := by
  obtain ⟨a, n, hn, rfl⟩ := h
  have hindices : ((List.range' a n).map UInt8.ofNat).map UInt8.toNat = List.range' a n := by
    rw [List.map_map]
    refine (List.map_congr_left fun i hi => ?_).trans (List.map_id _)
    have hlt := (List.mem_range'_1.mp hi).2
    exact EntryImpl.toNat_index (by omega)
  rw [hindices, List.length_map, List.length_range']
  cases n with
  | zero => rfl
  | succ n =>
    rw [List.range'_succ, List.map_cons, List.headD_cons, EntryImpl.toNat_index (by omega),
      List.range'_succ]

/-- What an option adds to the endpoints of an entry, if there is one. -/
def ServiceEndpoints.readOption (x : ServiceEndpoints) (opt : Option SdOption) : ServiceEndpoints :=
  opt.elim x x.read

/-- The endpoints of an entry are read from the options that it refers to. -/
lemma ServiceEndpoints.ofEntry_eq {entry : ServiceentryImpl} (h : entry.toEntryImpl.Assigned)
    (options : List SdOption) : ServiceEndpoints.ofEntry entry options =
      (entry.references.map fun i => options[i]?).foldl ServiceEndpoints.readOption
        ServiceEndpoints.init := by
  obtain ⟨h1, h2⟩ := h.isRun
  rw [EntryImpl.references, ← h1.map_toNat, ← h2.map_toNat, ← List.map_append, List.map_map,
    List.foldl_map]
  rfl

namespace OfferConfig

variable (cfg : OfferConfig)

/-- The address of an endpoint as a receiver finds it. -/
def endpointAddress (port : Option UInt16) : IpAddress :=
  if port.isSome then cfg.unicast else .unassigned

/-- The endpoints of an instance as a receiver finds them. -/
def endpoints (info : OfferedInfo) : ServiceEndpoints where
  reliableAddress := cfg.endpointAddress (info.endpoint true)
  reliablePort := (info.endpoint true).getD illegalPort
  unreliableAddress := cfg.endpointAddress (info.endpoint false)
  unreliablePort := (info.endpoint false).getD illegalPort

/-- Reading an endpoint option of an offer: its transport gets the address and the port. -/
lemma read_endpointOption (x : ServiceEndpoints) (isReliable : Bool) (port : UInt16) :
    x.read (cfg.endpointOption isReliable port) =
      if isReliable then { x with reliableAddress := cfg.unicast, reliablePort := port }
      else { x with unreliableAddress := cfg.unicast, unreliablePort := port } := by
  unfold endpointOption IpAddress.endpointOption
  cases cfg.unicast <;> cases isReliable <;> rfl

/-- The order of the options of an instance does not matter. -/
lemma foldl_readOption (info : OfferedInfo) :
    ((cfg.endpointOptions info).map some).foldl ServiceEndpoints.readOption ServiceEndpoints.init =
      cfg.endpoints info := by
  unfold endpointOptions endpoints endpointAddress
  cases info.endpoint true <;> cases info.endpoint false <;>
    simp [ServiceEndpoints.readOption, read_endpointOption, ServiceEndpoints.init]

variable {cfg} {o : Offer} {options : List SdOption} {e : ServiceentryImpl}

/-- An entry that offers an instance has the endpoints of the instance. -/
lemma IsOffer.ofEntry_eq (h : cfg.IsOffer o options e) (hassigned : e.toEntryImpl.Assigned) :
    ServiceEndpoints.ofEntry e options = cfg.endpoints o.2 := by
  rw [ServiceEndpoints.ofEntry_eq hassigned, ← cfg.foldl_readOption o.2]
  refine h.references.foldl_eq' (fun opt hopt opt' hopt' x => ?_) _
  have hread : ∀ opt ∈ (e.references.map fun i => options[i]?), ∃ isReliable port,
      o.2.endpoint isReliable = some port ∧ opt = some (cfg.endpointOption isReliable port) := by
    intro opt hopt
    obtain ⟨opt', hopt', rfl⟩ := List.mem_map.mp (h.references.subset hopt)
    rcases List.mem_append.mp hopt' with hopt' | hopt' <;>
      obtain ⟨port, hport, rfl⟩ := List.mem_map.mp hopt'
    · exact ⟨true, port, Option.mem_toList.mp hport, rfl⟩
    · exact ⟨false, port, Option.mem_toList.mp hport, rfl⟩
  obtain ⟨isReliable, port, hport, rfl⟩ := hread opt hopt
  obtain ⟨isReliable', port', hport', rfl⟩ := hread opt' hopt'
  by_cases hsame : isReliable = isReliable'
  · subst hsame
    rw [hport] at hport'
    rw [Option.some.inj hport']
  · simp only [ServiceEndpoints.readOption, Option.elim_some, read_endpointOption]
    cases isReliable <;> cases isReliable' <;> first
      | exact absurd rfl hsame
      | rfl

end OfferConfig

end Endpoints

/-! ## Messages that are understood -/

/-- **A message that is built with the API is understood**: it can be serialized, and a receiver of the
bytes processes its entries, with its options. -/
lemma MessageImpl.Built.carries_announced {message : MessageImpl} (h : message.Built)
    (hfew : message.entries.length < 2 ^ 28) (c : NodeConfig) (diagnosisAddress : UInt8)
    {number : Session.Number} (hnumber : number.1 ≠ 0) :
    ∃ data, (message.announced diagnosisAddress number).serialize [] = (some (), data) ∧
      Carries c data number
        ((message.entries.map Entry.received).flatMap (c.processEntry message.options)) := by
  have hbuilt : (message.announced diagnosisAddress number).Built :=
    ⟨h.entries, h.options, h.count, h.distinct⟩
  have hwrites := MessageImpl.writes_serialize fun e he => (hbuilt.entries e he).writes_serialize
  refine ⟨_, hwrites [], hnumber, fun stray => ?_⟩
  obtain ⟨m, hm, hheader, hflags, hentries, hoptions⟩ := hbuilt.deserialize_eq hfew stray
  refine ⟨m, hm, ?_, ?_, ?_⟩
  · rw [hheader]
    rfl
  · have hflag : m.getRebootFlag = (message.announced diagnosisAddress number).getRebootFlag := by
      unfold MessageImpl.getRebootFlag
      rw [hflags]
    rw [hflag, MessageImpl.announced, MessageImpl.getRebootFlag_setRebootFlag, hheader]
    rfl
  · rw [hentries, hoptions]
    rfl

/-! ## The messages with offers -/

/-- The entries of a message have got their options one by one, and the options are for endpoints. -/
structure Assembled (cfg : OfferConfig) (message : MessageImpl) : Prop where
  entries : ∀ e, .service e ∈ message.entries → e.toEntryImpl.Assigned
  options : ∀ opt ∈ message.options, ∃ isReliable port, opt = cfg.endpointOption isReliable port

section Assembled

variable {cfg : OfferConfig} {ignorePhase : Bool} {services : OfferedServices} {message : MessageImpl}
variable {o : Offer}

/-- A new message is assembled. -/
lemma assembled_createMessage : Assembled cfg createMessage :=
  ⟨fun _ h => absurd h List.not_mem_nil, fun _ h => absurd h List.not_mem_nil⟩

/-- An offer is assigned the options that it adds. -/
lemma assigned_assignOptions (options : List SdOption) (o : Offer) :
    (cfg.assignOptions options o.2 (cfg.offerEntry o).toEntryImpl).Assigned := by
  have hfold : ∀ (opts : List SdOption) (e : EntryImpl), e.Assigned →
      (opts.foldl (fun e opt => e.assignOption (UInt8.ofNat (options.idxOf opt))) e).Assigned := by
    intro opts
    induction opts with
    | nil => exact fun _ he => he
    | cons opt opts ih => exact fun e he => ih _ (.assignOption e _ he)
  exact hfold _ _ (.set _ _ _ _ _ _ .init)

/-- An offer that is inserted keeps the message assembled. -/
lemma Assembled.insertOffer (h : Assembled cfg message) (o : Offer) :
    Assembled cfg (cfg.insertOffer message o) := by
  rw [OfferConfig.insertOffer_eq]
  refine ⟨fun e he => ?_, fun opt hopt => ?_⟩
  · rcases List.mem_append.mp he with he | he
    · exact h.entries e he
    · obtain rfl := Entry.service.inj (List.mem_singleton.mp he)
      exact assigned_assignOptions _ o
  · rcases OfferConfig.mem_offerOptions_iff.mp hopt with hopt | ⟨isReliable, port, -, rfl⟩
    · exact h.options opt hopt
    · exact ⟨isReliable, port, rfl⟩

/-- What `insert_offer_service` returns if the offer fits. -/
lemma eq_insertOffer_of_insertOfferService {size : ℕ} {result : MessageImpl × ℕ}
    (h : insertOfferService cfg message o size = .ok (some result)) :
    result.1 = cfg.insertOffer message o := by
  unfold insertOfferService at h
  cases hsize : cfg.offerSize message.options o.2 with
  | error fault =>
    rw [hsize] at h
    exact nomatch h
  | ok offerSize =>
    rw [hsize] at h
    have hresult := Except.ok.inj h
    dsimp only at hresult
    split_ifs at hresult
    exact congrArg Prod.fst (Option.some.inj hresult).symm

/-- A pass over the instances leaves the message as it should be. -/
lemma Assembled.insertOfferEntries {start i size : ℕ} {es : List Offer} {page : OfferPage}
    (h : Assembled cfg message)
    (hpass : insertOfferEntries cfg ignorePhase start es i message size = .ok page) :
    Assembled cfg page.message := by
  induction es generalizing i message size with
  | nil => exact Except.ok.inj hpass ▸ h
  | cons o es ih =>
    unfold Sd.insertOfferEntries at hpass
    split_ifs at hpass
    · cases hservice : insertOfferService cfg message o size with
      | error fault =>
        rw [hservice] at hpass
        cases hpass
      | ok result =>
        rw [hservice] at hpass
        cases result with
        | none => exact Except.ok.inj hpass ▸ h
        | some result =>
          refine ih ?_ hpass
          rw [eq_insertOffer_of_insertOfferService hservice]
          exact h.insertOffer o
    · exact ih h hpass
    · exact ih h hpass

/-- All messages of an announcement are as they should be. -/
lemma assembled_of_returns {messages : List MessageImpl}
    (h : Loop.Returns (fillMessageWithOfferEntries cfg ignorePhase services) (.ok messages)) :
    ∀ m ∈ messages, Assembled cfg m := by
  refine Loop.of_returns (s := ⟨[], 0⟩) (I := fun s : OfferLoop => ∀ m ∈ s.messages, Assembled cfg m)
    (Q := fun r => ∀ messages, r = .ok messages → ∀ m ∈ messages, Assembled cfg m)
    (fun {s s'} hinv hround => ?_) (fun {s r} hinv hround => ?_) nofun h messages rfl
  · unfold offerRound at hround
    cases hpass : insertOfferEntries cfg ignorePhase s.start services.entries 0 createMessage
        cfg.maxMessageSize with
    | error fault =>
      rw [hpass] at hround
      exact nomatch hround
    | ok page =>
      rw [hpass] at hround
      dsimp only at hround
      split_ifs at hround
      obtain rfl := Sum.inl.inj hround
      exact List.forall_mem_append.mpr
        ⟨hinv, List.forall_mem_singleton.mpr (assembled_createMessage.insertOfferEntries hpass)⟩
  · unfold offerRound at hround
    cases hpass : insertOfferEntries cfg ignorePhase s.start services.entries 0 createMessage
        cfg.maxMessageSize with
    | error fault =>
      rw [hpass] at hround
      obtain rfl := Sum.inr.inj hround
      exact fun _ => nofun
    | ok page =>
      rw [hpass] at hround
      dsimp only at hround
      split_ifs at hround
      obtain rfl := Sum.inr.inj hround
      intro messages hmessages
      obtain rfl := Except.ok.inj hmessages
      exact List.forall_mem_append.mpr
        ⟨hinv, List.forall_mem_singleton.mpr (assembled_createMessage.insertOfferEntries hpass)⟩

end Assembled

/-! ### What a message says -/

namespace OfferConfig

variable {cfg : OfferConfig} {message : MessageImpl} {page : List Offer} {o : Offer}

/-- What the routing of a receiver should be told of an instance. -/
def routingCalls (cfg : OfferConfig) (c : NodeConfig) (o : Offer) : List RoutingCall :=
  let x := cfg.endpoints o.2
  if 0 < cfg.offerTtl o.2 then
    [.addRoutingInfo o.1 o.2.major o.2.minor (cfg.offerTtl o.2 * c.ttlFactor o.1) x]
  else if !c.isDiagnosis && !c.isSuspended then
    [.delRoutingInfo o.1 (x.reliablePort != illegalPort) (x.unreliablePort != illegalPort)]
  else []

/-- The time to live of an offer is on the wire with 24 bits. -/
lemma offerTtl_lt (httl : cfg.ttl.toNat < 2 ^ 24) (info : OfferedInfo) :
    (cfg.offerTtl info).toNat < 2 ^ 24 := by
  unfold offerTtl
  split_ifs with h
  · exact httl
  · have hzero : info.ttl = 0 := by
      rw [← UInt32.toNat_inj]
      have hnot : ¬ 0 < info.ttl.toNat := h
      simpa using hnot
    rw [hzero]
    decide

/-- An offer adds two endpoint options at most. -/
lemma length_endpointOptions_le (cfg : OfferConfig) (info : OfferedInfo) :
    (cfg.endpointOptions info).length ≤ 2 := by
  unfold endpointOptions
  cases info.endpoint true <;> cases info.endpoint false <;> simp

/-- The entry for an instance is put on the wire as it is. -/
lemma IsOffer.built {options : List SdOption} {e : ServiceentryImpl} (h : cfg.IsOffer o options e)
    (hassigned : e.toEntryImpl.Assigned) (httl : cfg.ttl.toNat < 2 ^ 24) : (Entry.service e).Built := by
  have hlength := h.references.length_eq
  have hle := cfg.length_endpointOptions_le o.2
  rw [List.length_map, List.length_map, EntryImpl.references, List.length_append, List.length_range',
    List.length_range'] at hlength
  refine ⟨⟨hassigned, ?_, by omega, by omega⟩, Or.inr (Or.inl h.type)⟩
  rw [h.ttl]
  exact offerTtl_lt httl o.2

/-- What the receiver does with the entry for an instance. -/
lemma IsOffer.processServiceentry {options : List SdOption} {e : ServiceentryImpl}
    (h : cfg.IsOffer o options e) (hassigned : e.toEntryImpl.Assigned) (c : NodeConfig) :
    c.processEntry options (Entry.service e).received = cfg.routingCalls c o := by
  obtain ⟨hmajor, hminor⟩ := Prod.mk.inj h.version
  have hreceived : c.processEntry options (Entry.service e).received =
      c.processServiceentry options e := rfl
  rw [hreceived, NodeConfig.processServiceentry, h.ofEntry_eq hassigned, h.key, h.ttl, h.type, hmajor,
    hminor]
  rfl

/-- Sixteen bytes at least are reserved for each entry. -/
lemma length_page_le (cfg : OfferConfig) (page : List Offer) :
    16 * page.length ≤ Packing.load cfg.reserved page :=
  Packing.length_mul_le_load fun pre o => by
    unfold reserved MessageImpl.sdEntrySize
    omega

/-- Each entry of the message is that of an offer. -/
lemma Represents.exists_offer (h : cfg.Represents message page) {x : Entry}
    (hx : x ∈ message.entries) : ∃ o e, x = .service e ∧ cfg.IsOffer o message.options e := by
  obtain ⟨i, rfl⟩ := List.mem_iff_get.mp hx
  obtain ⟨hlength, hget⟩ := List.forall₂_iff_get.mp h.offers
  obtain ⟨e, he, hoffer⟩ := hget i (by omega) i.2
  exact ⟨_, e, he, hoffer⟩

/-- A message with offers is one that is built with the API. -/
lemma Represents.built (h : cfg.Represents message page) (hassembled : Assembled cfg message)
    (hload : Packing.load cfg.reserved page ≤ cfg.maxMessageSize) (httl : cfg.ttl.toNat < 2 ^ 24) :
    message.Built where
  entries e he := by
    obtain ⟨o, e, rfl, hoffer⟩ := h.exists_offer he
    exact hoffer.built (hassembled.entries e he) httl
  options opt hopt := by
    obtain ⟨isReliable, port, rfl⟩ := hassembled.options opt hopt
    unfold endpointOption IpAddress.endpointOption
    cases cfg.unicast <;> exact ⟨rfl, Or.inl rfl⟩
  count := by
    have hlength := h.length_le
    have hmax := cfg.maxMessageSize_bounds
    omega
  distinct := by
    refine List.pairwise_of_forall_mem_list fun e he f _ => ?_
    obtain ⟨o, e, rfl, -⟩ := h.exists_offer he
    exact id

/-- What the receiver does with the entries of a message. -/
lemma Represents.flatMap_processEntry (h : cfg.Represents message page)
    (hassembled : Assembled cfg message) (c : NodeConfig) :
    (message.entries.map Entry.received).flatMap (c.processEntry message.options) =
      page.flatMap (cfg.routingCalls c) := by
  have hall : ∀ {page : List Offer} {entries : List Entry},
      List.Forall₂ (fun o x => ∃ e, x = Entry.service e ∧ cfg.IsOffer o message.options e)
        page entries →
      (∀ e, Entry.service e ∈ entries → e.toEntryImpl.Assigned) →
      (entries.map Entry.received).flatMap (c.processEntry message.options) =
        page.flatMap (cfg.routingCalls c) := by
    intro page entries h
    induction h with
    | nil => exact fun _ => rfl
    | cons hoffer _ ih =>
      obtain ⟨e, rfl, hoffer⟩ := hoffer
      intro hassigned
      rw [List.map_cons, List.flatMap_cons, List.flatMap_cons,
        hoffer.processServiceentry (hassigned e List.mem_cons_self) c,
        ih fun e he => hassigned e (List.mem_cons_of_mem _ he)]
  exact hall h.offers hassembled.entries

/-- **A message with offers is understood as it was meant**: it can be serialized, and a receiver of the
bytes tells its routing what it should of each instance, in their order.

**Proof sketch.** The message is one that is built with the API, so that its entries and options are
recovered. The endpoints of an entry do not depend on the order in which its options are found. -/
lemma Represents.carries_announced (h : cfg.Represents message page)
    (hassembled : Assembled cfg message)
    (hload : Packing.load cfg.reserved page ≤ cfg.maxMessageSize) (httl : cfg.ttl.toNat < 2 ^ 24)
    (c : NodeConfig) (diagnosisAddress : UInt8) {number : Session.Number} (hnumber : number.1 ≠ 0) :
    ∃ data, (message.announced diagnosisAddress number).serialize [] = (some (), data) ∧
      Carries c data number (page.flatMap (cfg.routingCalls c)) := by
  have hfew : message.entries.length < 2 ^ 28 := by
    have hlength := h.offers.length_eq
    have hpage := cfg.length_page_le page
    have hmax := cfg.maxMessageSize_bounds
    omega
  rw [← h.flatMap_processEntry hassembled c]
  exact (h.built hassembled hload httl).carries_announced hfew c diagnosisAddress hnumber

end OfferConfig

/-! ### Messages without offers -/

/-- A message that is built with the API, with entries for eventgroups and FindService entries. -/
structure NoOffers (message : MessageImpl) : Prop where
  built : message.Built
  few : message.entries.length < 2 ^ 28
  entries : ∀ e, .service e ∈ message.entries → e.type ≠ .offerService ∧ 0 < e.ttl

/-- The routing is told nothing because of a message without offers. -/
lemma NoOffers.flatMap_processEntry {message : MessageImpl} (h : NoOffers message) (c : NodeConfig) :
    (message.entries.map Entry.received).flatMap (c.processEntry message.options) = [] := by
  rw [List.flatMap_eq_nil_iff]
  intro x hx
  obtain ⟨e, he, rfl⟩ := List.mem_map.mp hx
  cases e with
  | eventgroup e => rfl
  | service e =>
    obtain ⟨htype, httl⟩ := h.entries e he
    have hreceived : c.processEntry message.options (Entry.service e).received =
        c.processServiceentry message.options { e with toEntryImpl := e.toEntryImpl.received } := rfl
    rw [hreceived, NodeConfig.processServiceentry]
    have hpos : 0 < e.toEntryImpl.received.ttl := httl
    have htype : e.toEntryImpl.received.type ≠ .offerService := htype
    dsimp only
    rw [if_pos hpos]
    split
    · exact absurd ‹_› htype
    · rfl

/-- A message without entries. -/
lemma noOffers_createMessage : NoOffers createMessage where
  built := ⟨fun _ h => absurd h List.not_mem_nil, fun _ h => absurd h List.not_mem_nil, by decide, .nil⟩
  few := by decide
  entries _ h := absurd h List.not_mem_nil

/-! ## Answers to FindService entries -/

/-- A FindService entry, with the unicast flag of its message. -/
structure FindEntry where
  service : UInt16
  instance_ : UInt16
  major : UInt8
  minor : UInt32
  unicastFlag : Bool

namespace FindEntry

variable (f : FindEntry)

/-- `get_offered_service` or `get_offered_service_instances`, for `ANY_INSTANCE`. -/
def foundInstances (services : OfferedServices) : List OfferedInfo :=
  if f.instance_ ≠ 0xFFFF then
    (services.entries.find? fun o => o.1 = (f.service, f.instance_)).toList.map Prod.snd
  else (services.entries.filter fun o => o.1.1 = f.service).map Prod.snd

/-- The test of `send_unicast_offer_service` and `send_multicast_offer_service`. -/
def matchesInfo (info : OfferedInfo) : Bool :=
  (f.major == 0xFF || f.major == info.major) && (f.minor == 0xFFFFFFFF || f.minor ≤ info.minor) &&
    ((info.endpoint false).isSome || (info.endpoint true).isSome)

/-- What is offered: an instance that was found has the instance of the entry. -/
def answered (services : OfferedServices) : List Offer :=
  ((f.foundInstances services).filter f.matchesInfo).map fun info => ((f.service, f.instance_), info)

/-- `send_uni_or_multicast_offerservice`. Whether the last offer was sent a short time ago, is an
argument. -/
def channel (lastOfferShorter : Bool) : Session.Channel :=
  if f.unicastFlag then if lastOfferShorter then .unicast else .multicast else .unicast

end FindEntry

/-- The message for an answer. That the offer does not fit is ignored. -/
def findAnswer (cfg : OfferConfig) (o : Offer) : Except OfferFault MessageImpl :=
  (insertOfferService cfg createMessage o cfg.maxMessageSize).map fun result =>
    (result.map Prod.fst).getD createMessage

/-- The messages of `process_findservice_serviceentry`. -/
def findAnswers (cfg : OfferConfig) (services : OfferedServices) (f : FindEntry) :
    Except OfferFault (List MessageImpl) :=
  (f.answered services).mapM (findAnswer cfg)

/-! ## The two nodes -/

/-- A node that offers services, one that receives what it sends, and the address for multicasts. -/
structure OfferLink where
  cfg : OfferConfig
  diagnosisAddress : UInt8
  node : NodeConfig
  multicast : IpAddress
  ttl_lt : cfg.ttl.toNat < 2 ^ 24
  unicast_ne : cfg.unicast ≠ node.unicast
  isSuspended : node.isSuspended = false
  isMulticast_unicast : node.unicast.isMulticast = false
  isMulticast_multicast : multicast.isMulticast = true

namespace OfferLink

variable (l : OfferLink)

/-- The destination of the messages of a channel. -/
def address : Session.Channel → IpAddress
  | .multicast => l.multicast
  | .unicast => l.node.unicast

/-- The address under which the session of a channel is stored. For a multicast it is the own one. -/
def sessionAddress : Session.Channel → IpAddress
  | .multicast => l.cfg.unicast
  | .unicast => l.node.unicast

/-- The address of a channel is a multicast address exactly for the multicast channel. -/
lemma isMulticast_address (channel : Session.Channel) :
    (l.address channel).isMulticast = (channel == .multicast) := by
  cases channel
  · exact l.isMulticast_multicast
  · exact l.isMulticast_unicast

/-- The channels have different addresses. -/
lemma address_inj {channel channel' : Session.Channel} :
    l.address channel = l.address channel' ↔ channel = channel' := by
  refine ⟨fun h => ?_, congrArg l.address⟩
  have hsame := (l.isMulticast_address channel).symm.trans
    ((congrArg IpAddress.isMulticast h).trans (l.isMulticast_address channel'))
  cases channel <;> cases channel' <;> first
    | rfl
    | exact absurd hsame (by decide)

/-- The channels have different addresses for their session numbers. -/
lemma sessionAddress_inj {channel channel' : Session.Channel} :
    l.sessionAddress channel = l.sessionAddress channel' ↔ channel = channel' := by
  cases channel <;> cases channel' <;> simp [sessionAddress, l.unicast_ne, l.unicast_ne.symm]

end OfferLink

/-- `sessions_sent_` of the sender, the messages on their way, and the receiver. -/
structure Exchange where
  sessionsSent : IpAddress → Option Session.Number
  flight : Session.Channel → List (List UInt8)
  node : Node

namespace Exchange

variable (l : OfferLink)

/-- Both nodes have just started. -/
def init : Exchange := ⟨fun _ => none, fun _ => [], Node.init⟩

/-- `serialize_and_send`, or a round of the loop in `serialize_and_send_messages`, which skips a message
without entries. Whether the message is taken by the endpoint is an argument. -/
def send (channel : Session.Channel) (x : Exchange) (message : MessageImpl) (sent : Bool) : Exchange :=
  if channel = .multicast ∧ message.entries = [] then x
  else
    let number := (Session.getSession x.sessionsSent (l.sessionAddress channel)).1
    let (result, data) := (message.announced l.diagnosisAddress number).serialize []
    let (number, sessionsSent) := Session.serializeAndSend x.sessionsSent (l.sessionAddress channel)
      result.isSome sent
    { x with
      sessionsSent
      flight := Function.update x.flight channel
        (x.flight channel ++ (number.map fun _ => data).toList) }

/-- Messages are sent one after the other. -/
def sendAll (channel : Session.Channel) : Exchange → List MessageImpl → (ℕ → Bool) → Exchange
  | x, [], _ => x
  | x, message :: messages, sent =>
    sendAll channel (x.send l channel message (sent 0)) messages fun i => sent (i + 1)

/-- What happens: the sender announces its services, or answers a FindService entry, or sends another
message on a channel; a message of a channel arrives, or gets lost; the sender sends something to
another address; a message of another node arrives. -/
inductive Event
  | announce (ignorePhase : Bool) (services : OfferedServices) (messages : List MessageImpl)
      (sent : ℕ → Bool)
  | find (services : OfferedServices) (f : FindEntry) (lastOfferShorter : Bool) (sent : ℕ → Bool)
  | other (channel : Session.Channel) (message : MessageImpl) (sent : Bool)
  | deliver (channel : Session.Channel) (stray : ℕ → UInt8)
  | lose (channel : Session.Channel) (i : ℕ)
  | sendOther (address : IpAddress) (serialized sent : Bool)
  | onMessage (sender destination : IpAddress) (data : List UInt8) (stray : ℕ → UInt8)

/-- The exchange as a state machine. -/
def step (x : Exchange) : Event → Exchange
  | .announce _ _ messages sent => x.sendAll l .multicast messages sent
  | .find services f lastOfferShorter sent =>
    match findAnswers l.cfg services f with
    | .ok messages => x.sendAll l (f.channel lastOfferShorter) messages sent
    | .error _ => x
  | .other channel message sent => x.send l channel message sent
  | .deliver channel stray =>
    match x.flight channel with
    | [] => x
    | data :: rest =>
      { x with
        flight := Function.update x.flight channel rest
        node := l.node.onMessage x.node data stray l.cfg.unicast (l.address channel) }
  | .lose channel i =>
    { x with flight := Function.update x.flight channel ((x.flight channel).eraseIdx i) }
  | .sendOther address serialized sent =>
    { x with sessionsSent := (Session.serializeAndSend x.sessionsSent address serialized sent).2 }
  | .onMessage sender destination data stray =>
    { x with node := l.node.onMessage x.node data stray sender destination }

/-! ### What is said -/

/-- The messages of an announcement are those of the source, and no pointer to an endpoint is null;
other messages have no offers; what is sent to other addresses is not for a channel, and other nodes
have other addresses. -/
def Event.Valid : Event → Prop
  | .announce ignorePhase services messages _ =>
    (∀ o ∈ l.cfg.offers ignorePhase services, l.cfg.Paired o) ∧
      Loop.Returns (fillMessageWithOfferEntries l.cfg ignorePhase services) (.ok messages)
  | .find services f _ _ => ∀ o ∈ f.answered services, l.cfg.Paired o
  | .other _ message _ => NoOffers message
  | .sendOther address _ _ => address ≠ l.cfg.unicast ∧ address ≠ l.node.unicast
  | .onMessage sender _ _ _ => sender ≠ l.cfg.unicast
  | .deliver _ _ | .lose _ _ => True

/-- What the routing of the receiver should be told because of an event on a channel. -/
def Event.said (channel : Session.Channel) : Event → List RoutingCall
  | .announce ignorePhase services _ _ =>
    if channel = .multicast then
      (l.cfg.offers ignorePhase services).flatMap (l.cfg.routingCalls l.node)
    else []
  | .find services f lastOfferShorter _ =>
    if channel = f.channel lastOfferShorter then
      (f.answered services).flatMap (l.cfg.routingCalls l.node)
    else []
  | _ => []

/-- Nothing is lost by an event. -/
def Event.Keeps : Event → Prop
  | .announce _ _ _ sent | .find _ _ _ sent => ∀ i, sent i = true
  | .other _ _ sent => sent = true
  | .lose _ _ => False
  | .deliver _ _ | .sendOther _ _ _ | .onMessage _ _ _ _ => True

/-! ### The record of a channel -/

/-- What has become of a message. -/
inductive Fate
  | flying
  | arrived
  | lost
deriving DecidableEq

/-- A message, by what it says. -/
structure SaidMessage where
  calls : List RoutingCall
  fate : Fate

/-- A message that the endpoint does not take is lost. -/
def Fate.ofSent (sent : Bool) : Fate := if sent then .flying else .lost

/-- The messages with some offers. One without offers is not sent by multicast. -/
def saidMessages (channel : Session.Channel) : List (List Offer) → (ℕ → Bool) → List SaidMessage
  | [], _ => []
  | page :: pages, sent =>
    (if channel = .multicast ∧ page = [] then []
      else [⟨page.flatMap (l.cfg.routingCalls l.node), .ofSent (sent 0)⟩]) ++
    saidMessages channel pages fun i => sent (i + 1)

/-- The messages that an event sends on a channel. -/
def Event.messages (channel : Session.Channel) : Event → List SaidMessage
  | .announce ignorePhase services _ sent =>
    if channel = .multicast then
      saidMessages l .multicast
        (Packing.pack l.cfg.reserved l.cfg.maxMessageSize (l.cfg.offers ignorePhase services)) sent
    else []
  | .find services f lastOfferShorter sent =>
    if channel = f.channel lastOfferShorter then
      saidMessages l (f.channel lastOfferShorter) ((f.answered services).map fun o => [o]) sent
    else []
  | .other channel' message sent =>
    if channel = channel' ∧ ¬ (channel' = .multicast ∧ message.entries = []) then
      [⟨[], .ofSent sent⟩]
    else []
  | _ => []

/-- The message on its way at a position arrives or is lost. -/
def setFate (fate : Fate) : ℕ → List SaidMessage → List SaidMessage
  | _, [] => []
  | i, m :: ms =>
    if m.fate = .flying then
      match i with
      | 0 => { m with fate } :: ms
      | i + 1 => m :: setFate fate i ms
    else m :: setFate fate i ms

/-- The record of a channel: the messages that were sent on it. -/
def Event.record (channel : Session.Channel) (ms : List SaidMessage) (e : Event) : List SaidMessage :=
  match e with
  | .deliver channel' _ => if channel = channel' then setFate .arrived 0 ms else ms
  | .lose channel' i => if channel = channel' then setFate .lost i ms else ms
  | e => ms ++ e.messages l channel

/-- What the messages with a fate say. -/
def withFate (fate : Fate) (ms : List SaidMessage) : List (List RoutingCall) :=
  (ms.filter (·.fate = fate)).map SaidMessage.calls

/-- The messages that have arrived are in front of those on their way. -/
def InOrder (ms : List SaidMessage) : Prop :=
  ms.Pairwise fun m m' => m.fate = .flying → m'.fate ≠ .arrived

section Record

variable {fate : Fate} {ms : List SaidMessage}

/-- Messages that are sent are behind those that were sent. -/
lemma withFate_append (ms' : List SaidMessage) :
    withFate fate (ms ++ ms') = withFate fate ms ++ withFate fate ms' := by
  rw [withFate, List.filter_append, List.map_append]
  rfl

/-- The first message and the others. -/
lemma withFate_cons (m : SaidMessage) (ms : List SaidMessage) : withFate fate (m :: ms) =
    if m.fate = fate then m.calls :: withFate fate ms else withFate fate ms := by
  unfold withFate
  rw [List.filter_cons]
  by_cases hm : m.fate = fate
  · rw [if_pos (decide_eq_true hm), if_pos hm, List.map_cons]
  · rw [if_neg (by simpa using hm), if_neg hm]

/-- No message has the fate. -/
lemma withFate_eq_nil_iff : withFate fate ms = [] ↔ ∀ m ∈ ms, m.fate ≠ fate := by
  simp only [withFate, List.map_eq_nil_iff, List.filter_eq_nil_iff, decide_eq_true_eq, ne_eq]

/-- What was said does not change. -/
lemma map_calls_setFate (fate : Fate) (i : ℕ) (ms : List SaidMessage) :
    (setFate fate i ms).map SaidMessage.calls = ms.map SaidMessage.calls := by
  induction ms generalizing i with
  | nil => rfl
  | cons m ms ih =>
    rw [setFate.eq_def]
    dsimp only
    split_ifs
    · cases i with
      | zero => rfl
      | succ i => rw [List.map_cons, ih, List.map_cons]
    · rw [List.map_cons, ih, List.map_cons]

/-- A message is no longer on its way. -/
lemma withFate_flying_setFate (hfate : fate ≠ .flying) (i : ℕ) (ms : List SaidMessage) :
    withFate .flying (setFate fate i ms) = (withFate .flying ms).eraseIdx i := by
  induction ms generalizing i with
  | nil => rfl
  | cons m ms ih =>
    rw [setFate.eq_def]
    dsimp only
    by_cases hm : m.fate = .flying
    · rw [if_pos hm]
      cases i with
      | zero => simp [withFate_cons, hm, hfate]
      | succ i => simpa [withFate_cons, hm] using ih i
    · rw [if_neg hm]
      simpa [withFate_cons, hm] using ih i

/-- The messages with another fate stay as they are. -/
lemma withFate_setFate_of_ne {fate' : Fate} (hflying : fate' ≠ .flying) (hfate : fate ≠ fate') (i : ℕ)
    (ms : List SaidMessage) : withFate fate' (setFate fate i ms) = withFate fate' ms := by
  induction ms generalizing i with
  | nil => rfl
  | cons m ms ih =>
    rw [setFate.eq_def]
    dsimp only
    by_cases hm : m.fate = .flying
    · rw [if_pos hm]
      cases i with
      | zero => simp [withFate_cons, hm, hfate, hflying.symm]
      | succ i => simpa [withFate_cons, hm, hflying.symm] using ih i
    · rw [if_neg hm]
      by_cases hm' : m.fate = fate' <;> simpa [withFate_cons, hm'] using ih i

/-- The first message on its way arrives behind those that have arrived. -/
lemma withFate_arrived_setFate (h : InOrder ms) : withFate .arrived (setFate .arrived 0 ms) =
    withFate .arrived ms ++ (withFate .flying ms).take 1 := by
  induction ms with
  | nil => rfl
  | cons m ms ih =>
    obtain ⟨hfirst, hrest⟩ := List.pairwise_cons.mp h
    rw [setFate.eq_def]
    dsimp only
    by_cases hm : m.fate = .flying
    · have hnone : withFate .arrived ms = [] :=
        withFate_eq_nil_iff.mpr fun m' hm' => hfirst m' hm' hm
      rw [if_pos hm]
      simp [withFate_cons, hm, hnone]
    · rw [if_neg hm]
      by_cases harrived : m.fate = .arrived <;> simpa [withFate_cons, hm, harrived] using ih hrest

/-- The messages are those from before, but for the one that has got the fate. -/
lemma mem_setFate {i : ℕ} {m : SaidMessage} (h : m ∈ setFate fate i ms) : m ∈ ms ∨ m.fate = fate := by
  induction ms generalizing i with
  | nil => exact Or.inl h
  | cons m' ms ih =>
    rw [setFate.eq_def] at h
    dsimp only at h
    split_ifs at h
    · cases i with
      | zero =>
        rcases List.mem_cons.mp h with rfl | h
        · exact Or.inr rfl
        · exact Or.inl (List.mem_cons_of_mem _ h)
      | succ i =>
        rcases List.mem_cons.mp h with rfl | h
        · exact Or.inl List.mem_cons_self
        · exact (ih h).imp_left (List.mem_cons_of_mem _)
    · rcases List.mem_cons.mp h with rfl | h
      · exact Or.inl List.mem_cons_self
      · exact (ih h).imp_left (List.mem_cons_of_mem _)

/-- A message that arrives is the first one on its way. -/
lemma InOrder.setFate (h : InOrder ms) {i : ℕ} (hfirst : fate = .arrived → i = 0)
    (hflying : fate ≠ .flying) : InOrder (setFate fate i ms) := by
  induction ms generalizing i with
  | nil => exact h
  | cons m ms ih =>
    obtain ⟨hm, hms⟩ := List.pairwise_cons.mp h
    rw [setFate.eq_def]
    dsimp only
    split_ifs with hfly
    · cases i with
      | zero => exact List.pairwise_cons.mpr ⟨fun _ _ hfate => absurd hfate hflying, hms⟩
      | succ i =>
        have hfate : fate ≠ .arrived := fun heq => absurd (hfirst heq) (Nat.succ_ne_zero i)
        refine List.pairwise_cons.mpr ⟨fun m' hm' hfly => ?_, ih hms fun heq => absurd heq hfate⟩
        rcases mem_setFate hm' with hm' | hm'
        · exact hm m' hm' hfly
        · exact hm' ▸ hfate
    · exact List.pairwise_cons.mpr ⟨fun _ _ heq => absurd heq hfly, ih hms hfirst⟩

/-- A message that is sent has not arrived. -/
lemma InOrder.concat (h : InOrder ms) {m : SaidMessage} (hm : m.fate ≠ .arrived) :
    InOrder (ms ++ [m]) :=
  List.pairwise_append.mpr ⟨h, List.pairwise_singleton _ _, fun _ _ _ hm' _ =>
    List.mem_singleton.mp hm' ▸ hm⟩

/-- If no message is on its way, none arrives and none is lost. -/
lemma setFate_of_flying_eq_nil (h : withFate .flying ms = []) (fate : Fate) (i : ℕ) :
    setFate fate i ms = ms := by
  induction ms generalizing i with
  | nil => rfl
  | cons m ms ih =>
    obtain ⟨hm, hms⟩ := List.forall_mem_cons.mp (withFate_eq_nil_iff.mp h)
    rw [setFate.eq_def]
    dsimp only
    rw [if_neg hm, ih (withFate_eq_nil_iff.mpr hms)]

/-- If no message is lost, those that have arrived and those on their way are all messages. -/
lemma InOrder.arrived_append_flying (h : InOrder ms) (hlost : withFate .lost ms = []) :
    withFate .arrived ms ++ withFate .flying ms = ms.map SaidMessage.calls := by
  induction ms with
  | nil => rfl
  | cons m ms ih =>
    obtain ⟨hfirst, hrest⟩ := List.pairwise_cons.mp h
    obtain ⟨hkept, hms⟩ := List.forall_mem_cons.mp (withFate_eq_nil_iff.mp hlost)
    have hrest := ih hrest (withFate_eq_nil_iff.mpr hms)
    cases hm : m.fate with
    | arrived => simpa [withFate_cons, hm] using hrest
    | lost => exact absurd hm hkept
    | flying =>
      -- nothing behind a message on its way has arrived
      have hnone : withFate .arrived ms = [] :=
        withFate_eq_nil_iff.mpr fun m' hm' => hfirst m' hm' hm
      simpa [withFate_cons, hm, hnone] using hrest

/-- The messages with some offers say what the offers say, in their order. -/
lemma flatten_saidMessages (channel : Session.Channel) (pages : List (List Offer)) (sent : ℕ → Bool) :
    ((saidMessages l channel pages sent).map SaidMessage.calls).flatten =
      pages.flatten.flatMap (l.cfg.routingCalls l.node) := by
  induction pages generalizing sent with
  | nil => rfl
  | cons page pages ih =>
    rw [saidMessages, List.map_append, List.flatten_append, ih, List.flatten_cons, List.flatMap_append]
    congr 1
    split_ifs with hpage
    · rw [hpage.2]
      rfl
    · exact List.append_nil _

/-- If the endpoint takes all messages, none is lost. -/
lemma withFate_lost_saidMessages (channel : Session.Channel) (pages : List (List Offer))
    {sent : ℕ → Bool} (h : ∀ i, sent i = true) :
    withFate .lost (saidMessages l channel pages sent) = [] := by
  induction pages generalizing sent with
  | nil => rfl
  | cons page pages ih =>
    rw [saidMessages, withFate_append, ih fun i => h (i + 1), List.append_nil]
    split_ifs
    · rfl
    · rw [h 0]
      rfl

/-- The record of a channel says what was said on it. -/
lemma flatten_record (channel : Session.Channel) (ms : List SaidMessage) (e : Event) :
    ((e.record l channel ms).map SaidMessage.calls).flatten =
      (ms.map SaidMessage.calls).flatten ++ e.said l channel := by
  cases e with
  | deliver | lose =>
    simp only [Event.record, Event.said, List.append_nil]
    split_ifs
    · rw [map_calls_setFate]
    · rfl
  | announce ignorePhase services messages sent =>
    simp only [Event.record, Event.messages, Event.said, List.map_append, List.flatten_append]
    split_ifs
    · rw [flatten_saidMessages, Packing.flatten_pack]
    · rfl
  | find services f lastOfferShorter sent =>
    have hflatten : ((f.answered services).map fun o => [o]).flatten = f.answered services := by
      rw [← List.flatMap_def, List.flatMap_singleton']
    simp only [Event.record, Event.messages, Event.said, List.map_append, List.flatten_append]
    split_ifs
    · rw [flatten_saidMessages, hflatten]
    · rfl
  | other =>
    simp only [Event.record, Event.messages, Event.said, List.map_append, List.flatten_append]
    split_ifs <;> rfl
  | sendOther | onMessage => simp only [Event.record, Event.messages, Event.said, List.append_nil]

/-- An event that loses nothing adds no lost message. -/
lemma withFate_lost_record {e : Event} (h : e.Keeps) (channel : Session.Channel)
    (ms : List SaidMessage) : withFate .lost (e.record l channel ms) = withFate .lost ms := by
  cases e with
  | lose => exact h.elim
  | deliver =>
    rw [Event.record]
    split_ifs
    · exact withFate_setFate_of_ne (by decide) (by decide) 0 ms
    · rfl
  | announce ignorePhase services messages sent =>
    simp only [Event.record, Event.messages, withFate_append]
    split_ifs
    · rw [withFate_lost_saidMessages l _ _ h, List.append_nil]
    · exact List.append_nil _
  | find services f lastOfferShorter sent =>
    simp only [Event.record, Event.messages, withFate_append]
    split_ifs
    · rw [withFate_lost_saidMessages l _ _ h, List.append_nil]
    · exact List.append_nil _
  | other channel' message sent =>
    obtain rfl : sent = true := h
    simp only [Event.record, Event.messages, withFate_append]
    split_ifs <;> exact List.append_nil _
  | sendOther | onMessage => simp only [Event.record, Event.messages, List.append_nil]

end Record

/-! ### The invariant -/

/-- A channel: the messages on their way are understood as they were meant, their numbers are in the
order of the sender, and the routing was told what those say that have arrived. -/
structure InvOn (channel : Session.Channel) (ms : List SaidMessage) (x : Exchange)
    (packets : List (Session.Number × List RoutingCall)) : Prop where
  carries : List.Forall₂ (fun data p => Carries l.node data p.1 p.2) (x.flight channel) packets
  steady : ∃ armed, Session.Steady (Session.heard (x.node.sessionsReceived l.cfg.unicast) channel) armed
    (packets.map Prod.fst) (Session.next x.sessionsSent (l.sessionAddress channel))
  arrived : x.node.callsFrom l.cfg.unicast (l.address channel) = (withFate .arrived ms).flatten
  flying : packets.map Prod.snd = withFate .flying ms
  inOrder : InOrder ms

/-- The invariant of the exchange, for the records of the channels. -/
def Inv (ms : Session.Channel → List SaidMessage) (x : Exchange) : Prop :=
  ∀ channel, ∃ packets, InvOn l channel (ms channel) x packets

variable {l} {ms : Session.Channel → List SaidMessage} {x : Exchange}

/-- Nothing was said. -/
lemma inv_init : Inv l (fun _ => []) init := fun _ =>
  ⟨[], .nil, ⟨false, Session.Steady.init⟩, rfl, rfl, .nil⟩

/-- A part of the exchange that a channel does not depend on changes. -/
lemma InvOn.congr {x' : Exchange} {channel : Session.Channel} {ms : List SaidMessage}
    {packets : List (Session.Number × List RoutingCall)} (h : InvOn l channel ms x packets)
    (hflight : x'.flight channel = x.flight channel)
    (hheard : Session.heard (x'.node.sessionsReceived l.cfg.unicast) channel =
      Session.heard (x.node.sessionsReceived l.cfg.unicast) channel)
    (hnext : Session.next x'.sessionsSent (l.sessionAddress channel) =
      Session.next x.sessionsSent (l.sessionAddress channel))
    (hcalls : x'.node.callsFrom l.cfg.unicast (l.address channel) =
      x.node.callsFrom l.cfg.unicast (l.address channel)) : InvOn l channel ms x' packets where
  carries := hflight ▸ h.carries
  steady := by
    rw [hheard, hnext]
    exact h.steady
  arrived := hcalls.trans h.arrived
  flying := h.flying
  inOrder := h.inOrder

/-- What a message tells a receiver. -/
structure Tells (l : OfferLink) (message : MessageImpl) (calls : List RoutingCall) : Prop where
  carries : ∀ {number : Session.Number}, number.1 ≠ 0 →
    ∃ data, (message.announced l.diagnosisAddress number).serialize [] = (some (), data) ∧
      Carries l.node data number calls

/-- What a message with offers says. -/
structure Conveys (l : OfferLink) (message : MessageImpl) (page : List Offer) : Prop where
  represents : l.cfg.Represents message page
  assembled : Assembled l.cfg message
  load_le : Packing.load l.cfg.reserved page ≤ l.cfg.maxMessageSize

/-- A message with offers tells a receiver of them. -/
lemma Conveys.tells {message : MessageImpl} {page : List Offer} (h : Conveys l message page) :
    Tells l message (page.flatMap (l.cfg.routingCalls l.node)) :=
  ⟨h.represents.carries_announced h.assembled h.load_le l.ttl_lt l.node l.diagnosisAddress⟩

/-- A message without offers tells a receiver nothing. -/
lemma tells_of_noOffers {message : MessageImpl} (h : NoOffers message) : Tells l message [] :=
  ⟨fun hnumber => h.flatMap_processEntry l.node ▸
    h.built.carries_announced h.few l.node l.diagnosisAddress hnumber⟩

/-- The session of an address is the one that comes next. -/
lemma getSession_fst (sessionsSent : IpAddress → Option Session.Number) (address : IpAddress) :
    (Session.getSession sessionsSent address).1 = Session.next sessionsSent address := by
  unfold Session.getSession Session.next
  cases sessionsSent address <;> rfl

/-- A message that is lost before it has left the node changes the record only. -/
lemma InvOn.lost {channel : Session.Channel} {ms : List SaidMessage}
    {packets : List (Session.Number × List RoutingCall)} (h : InvOn l channel ms x packets)
    (calls : List RoutingCall) : InvOn l channel (ms ++ [⟨calls, .lost⟩]) x packets where
  carries := h.carries
  steady := h.steady
  arrived := by
    rw [withFate_append, List.flatten_append, h.arrived]
    exact (List.append_nil _).symm
  flying := by
    rw [withFate_append, h.flying]
    exact (List.append_nil _).symm
  inOrder := h.inOrder.concat nofun

/-- A message that is understood is put behind the others of its channel. -/
lemma InvOn.put {channel : Session.Channel} {ms : List SaidMessage} {calls : List RoutingCall}
    {x' : Exchange} {packets : List (Session.Number × List RoutingCall)}
    (h : InvOn l channel ms x packets) {data : List UInt8}
    (hcarries : Carries l.node data (Session.next x.sessionsSent (l.sessionAddress channel)) calls)
    (hflight : x'.flight channel = x.flight channel ++ [data]) (hnode : x'.node = x.node)
    (hnext : Session.next x'.sessionsSent (l.sessionAddress channel) =
      Session.increment (Session.next x.sessionsSent (l.sessionAddress channel))) :
    InvOn l channel (ms ++ [⟨calls, .flying⟩]) x'
      (packets ++ [(Session.next x.sessionsSent (l.sessionAddress channel), calls)]) where
  carries := hflight ▸ List.rel_append h.carries (.cons hcarries .nil)
  steady := by
    obtain ⟨armed, hsteady⟩ := h.steady
    rw [hnode, hnext, List.map_append]
    exact ⟨armed, hsteady.send⟩
  arrived := by
    rw [hnode, withFate_append, List.flatten_append, h.arrived]
    exact (List.append_nil _).symm
  flying := by
    rw [withFate_append, List.map_append, h.flying]
    rfl
  inOrder := h.inOrder.concat nofun

/-- What happens to a message that can be serialized. -/
lemma send_eq {channel : Session.Channel} {message : MessageImpl}
    (hentries : ¬ (channel = .multicast ∧ message.entries = [])) {data : List UInt8}
    (hdata : (message.announced l.diagnosisAddress
      (Session.next x.sessionsSent (l.sessionAddress channel))).serialize [] = (some (), data))
    (sent : Bool) : x.send l channel message sent =
      { x with
        sessionsSent :=
          (Session.serializeAndSend x.sessionsSent (l.sessionAddress channel) true sent).2
        flight := Function.update x.flight channel
          (x.flight channel ++ if sent then [data] else []) } := by
  have hsession := Session.serializeAndSend_fst x.sessionsSent (l.sessionAddress channel) true sent
  unfold send
  rw [if_neg hentries, getSession_fst]
  dsimp only
  rw [hdata]
  dsimp only [Option.isSome_some]
  rw [hsession]
  cases sent <;> rfl

/-- The invariant is for the records, however they are written. -/
lemma Inv.congr {ms' : Session.Channel → List SaidMessage} (h : Inv l ms x)
    (hms : ∀ c, ms' c = ms c) : Inv l ms' x := fun c => hms c ▸ h c

/-- A message is sent, or it is lost before it has left the node. -/
lemma Inv.send {channel : Session.Channel} {message : MessageImpl} {calls : List RoutingCall}
    (h : Inv l ms x) (htells : Tells l message calls) (sent : Bool) :
    Inv l (fun c => ms c ++ if c = channel ∧ ¬ (channel = .multicast ∧ message.entries = []) then
      [⟨calls, .ofSent sent⟩] else []) (x.send l channel message sent) := by
  intro c
  obtain ⟨packets, hc⟩ := h c
  dsimp only
  by_cases hentries : channel = .multicast ∧ message.entries = []
  · have hsame : x.send l channel message sent = x := if_pos hentries
    rw [hsame, if_neg fun hsent => hsent.2 hentries, List.append_nil]
    exact ⟨packets, hc⟩
  · have hne : (Session.next x.sessionsSent (l.sessionAddress channel)).1 ≠ 0 := by
      obtain ⟨packets', hchannel⟩ := h channel
      obtain ⟨armed, hsteady⟩ := hchannel.steady
      exact hsteady.ne_zero _ (List.mem_append_right _ (List.mem_singleton_self _))
    obtain ⟨data, hdata, hcarries⟩ := htells.carries hne
    have hnext := Session.next_serializeAndSend x.sessionsSent (l.sessionAddress channel) true sent
    rw [send_eq hentries hdata]
    by_cases hchannel : c = channel
    · subst hchannel
      rw [if_pos ⟨rfl, hentries⟩]
      cases sent with
      | false =>
        refine ⟨packets, (hc.lost calls).congr ?_ rfl ?_ rfl⟩
        · simp
        · rw [hnext]
          rfl
      | true =>
        refine ⟨packets ++ [(_, _)], hc.put hcarries ?_ rfl ?_⟩
        · simp
        · rw [hnext, if_pos ⟨rfl, rfl⟩]
    · rw [if_neg fun hsent => hchannel hsent.1, List.append_nil]
      refine ⟨packets, hc.congr (Function.update_of_ne hchannel _ _) rfl ?_ rfl⟩
      rw [hnext, if_neg fun heq => hchannel (l.sessionAddress_inj.mp heq.2)]

/-- Messages with offers are sent one after the other. -/
lemma Inv.sendAll (channel : Session.Channel) {messages : List MessageImpl}
    {pages : List (List Offer)} (h : Inv l ms x)
    (hconveys : List.Forall₂ (Conveys l) messages pages) (sent : ℕ → Bool) :
    Inv l (fun c => ms c ++ if c = channel then saidMessages l channel pages sent else [])
      (x.sendAll l channel messages sent) := by
  induction hconveys generalizing x ms sent with
  | nil => exact h.congr fun c => by rw [saidMessages, ite_self, List.append_nil]
  | @cons message page messages pages hconveys _ ih =>
    refine (ih (h.send hconveys.tells (sent 0)) fun i => sent (i + 1)).congr fun c => ?_
    have hentries : message.entries = [] ↔ page = [] := by
      have hlength := hconveys.represents.offers.length_eq
      rw [← List.length_eq_zero_iff, ← List.length_eq_zero_iff, hlength]
    by_cases hchannel : c = channel
    · rw [if_pos hchannel, if_pos hchannel, saidMessages, List.append_assoc]
      by_cases hskipped : channel = .multicast ∧ page = []
      · rw [if_pos hskipped, if_neg fun hsent => hsent.2 (hskipped.imp_right hentries.mpr)]
      · rw [if_neg hskipped, if_pos ⟨hchannel, fun h => hskipped (h.imp_right hentries.mp)⟩]
    · simp only [hchannel, false_and, if_false, List.append_nil]

/-! ### The messages of an event -/

/-- The messages of an announcement say what is offered. -/
lemma conveys_announce {ignorePhase : Bool} {services : OfferedServices} {messages : List MessageImpl}
    (hpaired : ∀ o ∈ l.cfg.offers ignorePhase services, l.cfg.Paired o)
    (hreturns : Loop.Returns (fillMessageWithOfferEntries l.cfg ignorePhase services) (.ok messages)) :
    List.Forall₂ (Conveys l) messages
      (Packing.pack l.cfg.reserved l.cfg.maxMessageSize (l.cfg.offers ignorePhase services)) := by
  obtain ⟨messages', hreturns', hpages⟩ := returns_offers hpaired (Nat.zero_le _) []
  obtain rfl : messages = messages' :=
    Except.ok.inj (stable_fillMessageWithOfferEntries.unique hreturns hreturns')
  have hassembled := assembled_of_returns hreturns
  have hload := Packing.load_le_of_mem_pack (l.cfg.reserved_le [])
    (l.cfg.offers ignorePhase services)
  obtain ⟨hlength, hget⟩ := List.forall₂_iff_get.mp hpages
  exact List.forall₂_iff_get.mpr ⟨hlength, fun i h h' =>
    ⟨hget i h h', hassembled _ (List.get_mem _ _), hload _ (List.get_mem _ _)⟩⟩

/-- The message for an answer says what is offered. -/
lemma conveys_findAnswer {o : Offer} (hpaired : l.cfg.Paired o) :
    ∃ message, findAnswer l.cfg o = .ok message ∧ Conveys l message [o] := by
  have hroom : Packing.load l.cfg.reserved [] + l.cfg.reserved [] o ≤ l.cfg.maxMessageSize := by
    rw [Packing.load_nil, Nat.zero_add]
    exact l.cfg.reserved_le [] o
  refine ⟨l.cfg.insertOffer createMessage o, ?_, l.cfg.represents_createMessage.insertOffer hroom,
    assembled_createMessage.insertOffer o, ?_⟩
  · rw [findAnswer, insertOfferService_eq l.cfg.represents_createMessage hpaired,
      if_pos (l.cfg.reserved_le [] o)]
    rfl
  · exact (Packing.load_append_singleton [] o).trans_le hroom

/-- The messages of the answers say what is offered. -/
lemma conveys_findAnswers {os : List Offer} (hpaired : ∀ o ∈ os, l.cfg.Paired o) :
    ∃ messages, os.mapM (findAnswer l.cfg) = .ok messages ∧
      List.Forall₂ (Conveys l) messages (os.map fun o => [o]) := by
  induction os with
  | nil => exact ⟨[], rfl, .nil⟩
  | cons o os ih =>
    obtain ⟨ho, hos⟩ := List.forall_mem_cons.mp hpaired
    obtain ⟨message, hmessage, hconveys⟩ := conveys_findAnswer ho
    obtain ⟨messages, hmessages, hall⟩ := ih hos
    refine ⟨message :: messages, ?_, .cons hconveys hall⟩
    rw [List.mapM_cons, hmessage, hmessages]
    rfl

/-! ### The steps -/

/-- The first message on its way on a channel arrives. -/
lemma Inv.deliver (h : Inv l ms x) (channel : Session.Channel) (stray : ℕ → UInt8) :
    Inv l (fun c => if c = channel then setFate .arrived 0 (ms c) else ms c)
      (x.step l (.deliver channel stray)) := by
  intro c
  obtain ⟨packets, hc⟩ := h c
  dsimp only
  obtain ⟨arriving, harriving⟩ := h channel
  have hcarriesAll := harriving.carries
  cases hflight : x.flight channel with
  | nil =>
    have hsame : x.step l (.deliver channel stray) = x := by simp only [step, hflight]
    rw [hflight] at hcarriesAll
    have hnone : withFate .flying (ms channel) = [] := by
      rw [← harriving.flying, List.forall₂_nil_left_iff.mp hcarriesAll, List.map_nil]
    rw [hsame]
    split_ifs with hchannel
    · rw [hchannel, setFate_of_flying_eq_nil hnone]
      exact ⟨arriving, harriving⟩
    · exact ⟨packets, hc⟩
  | cons data rest =>
    rw [hflight] at hcarriesAll
    obtain ⟨p, packets', hp, hpackets', rfl⟩ := List.forall₂_cons_left_iff.mp hcarriesAll
    obtain ⟨armed, hsteady⟩ := harriving.steady
    have hbefore := (List.pairwise_cons.mp hsteady.before).1 p.1 List.mem_cons_self
    obtain ⟨hheard, hcalls⟩ := @Carries.onMessage l.node x.node data stray l.cfg.unicast
      (l.address channel) p.1 p.2 channel hp l.isSuspended l.unicast_ne (l.isMulticast_address channel)
      hbefore
    have hstep : x.step l (.deliver channel stray) =
        { x with
          flight := Function.update x.flight channel rest
          node := l.node.onMessage x.node data stray l.cfg.unicast (l.address channel) } := by
      simp only [step, hflight]
    rw [hstep]
    by_cases hchannel : c = channel
    · subst hchannel
      have happend := hcalls (l.address c)
      rw [if_pos rfl] at happend
      have hflying := harriving.flying
      rw [List.map_cons] at hflying
      rw [if_pos rfl]
      refine ⟨packets', ?_, ⟨true, ?_⟩, ?_, ?_, harriving.inOrder.setFate (fun _ => rfl) (by decide)⟩
      · dsimp only
        rw [Function.update_self]
        exact hpackets'
      · rw [hheard, if_pos rfl]
        exact hsteady.receive
      · rw [happend, harriving.arrived, withFate_arrived_setFate harriving.inOrder, ← hflying,
          List.flatten_append]
        exact congrArg _ (List.append_nil _).symm
      · rw [withFate_flying_setFate (by decide), ← hflying]
        rfl
    · rw [if_neg hchannel]
      refine ⟨packets, hc.congr (Function.update_of_ne hchannel _ _) ?_ rfl ?_⟩
      · rw [hheard, if_neg hchannel]
      · rw [hcalls, if_neg fun heq => hchannel (l.address_inj.mp heq.symm), List.append_nil]

/-- A message on its way is lost. -/
lemma Inv.lose (h : Inv l ms x) (channel : Session.Channel) (i : ℕ) :
    Inv l (fun c => if c = channel then setFate .lost i (ms c) else ms c)
      (x.step l (.lose channel i)) := by
  intro c
  obtain ⟨packets, hc⟩ := h c
  dsimp only
  by_cases hchannel : c = channel
  · subst hchannel
    obtain ⟨armed, hsteady⟩ := hc.steady
    rw [if_pos rfl]
    refine ⟨packets.eraseIdx i, ?_, ⟨armed, ?_⟩, ?_, ?_, hc.inOrder.setFate nofun (by decide)⟩
    · simp only [Exchange.step, Function.update_self, List.eraseIdx_eq_take_drop_succ]
      exact List.rel_append (List.forall₂_take i hc.carries) (List.forall₂_drop (i + 1) hc.carries)
    · rw [← List.eraseIdx_map]
      exact hsteady.lose (List.eraseIdx_sublist _ i)
    · rw [withFate_setFate_of_ne (by decide) (by decide)]
      exact hc.arrived
    · rw [withFate_flying_setFate (by decide), ← hc.flying, List.eraseIdx_map]
  · rw [if_neg hchannel]
    exact ⟨packets, hc.congr (Function.update_of_ne hchannel _ _) rfl rfl rfl⟩

/-- What concerns neither the channels nor the records keeps the invariant. -/
lemma Inv.frame {x' : Exchange} (h : Inv l ms x) (hflight : x'.flight = x.flight)
    (hheard : x'.node.sessionsReceived l.cfg.unicast = x.node.sessionsReceived l.cfg.unicast)
    (hnext : ∀ c, Session.next x'.sessionsSent (l.sessionAddress c) =
      Session.next x.sessionsSent (l.sessionAddress c))
    (hcalls : ∀ c, x'.node.callsFrom l.cfg.unicast (l.address c) =
      x.node.callsFrom l.cfg.unicast (l.address c)) : Inv l ms x' := by
  intro c
  obtain ⟨packets, hc⟩ := h c
  exact ⟨packets, hc.congr (congrFun hflight c) (congrArg (Session.heard · c) hheard) (hnext c)
    (hcalls c)⟩

/-- Every event keeps the invariant, for the records with the event.

**Proof sketch.** The messages of an announcement and of answers are understood, and other messages say
nothing. A message that arrives has a number after the one that is stored, so that it is not taken for a
reboot; nothing else concerns the two nodes. -/
lemma Inv.step {e : Event} (h : Inv l ms x) (he : e.Valid l) :
    Inv l (fun c => e.record l c (ms c)) (x.step l e) := by
  cases e with
  | announce ignorePhase services messages sent =>
    exact h.sendAll .multicast (conveys_announce he.1 he.2) sent
  | find services f lastOfferShorter sent =>
    obtain ⟨messages, hmessages, hconveys⟩ := conveys_findAnswers he
    have hrun : x.step l (.find services f lastOfferShorter sent) =
        x.sendAll l (f.channel lastOfferShorter) messages sent := by
      simp only [Exchange.step, findAnswers, hmessages]
    rw [hrun]
    exact h.sendAll (f.channel lastOfferShorter) hconveys sent
  | other channel message sent => exact h.send (tells_of_noOffers he) sent
  | deliver channel stray => exact h.deliver channel stray
  | lose channel i => exact h.lose channel i
  | sendOther address serialized sent =>
    refine (h.congr fun c => List.append_nil _).frame rfl rfl (fun c => ?_) fun _ => rfl
    refine (Session.next_serializeAndSend x.sessionsSent address serialized sent _).trans
      (if_neg fun heq => ?_)
    cases c with
    | multicast => exact he.1 heq.2.symm
    | unicast => exact he.2 heq.2.symm
  | onMessage sender destination data stray =>
    obtain ⟨hsessions, hcalls⟩ := @onMessage_of_ne l.node x.node data stray l.cfg.unicast destination
      sender he
    exact (h.congr fun c => List.append_nil _).frame rfl hsessions (fun _ => rfl) fun _ => hcalls _

/-! ### The run -/

/-- The invariant holds along every run, for the records of the run. -/
lemma Inv.run {events : List Event} (h : Inv l ms x) (hevents : ∀ e ∈ events, e.Valid l) :
    Inv l (fun c => Runs.run (fun ms e => Event.record l c ms e) (ms c) events)
      (Runs.run (Exchange.step l) x events) := by
  induction events generalizing x ms with
  | nil => exact h
  | cons e events ih =>
    obtain ⟨he, hevents⟩ := List.forall_mem_cons.mp hevents
    exact ih (h.step he) hevents

/-- The record of a run says what was said. -/
lemma flatten_run_record (channel : Session.Channel) (ms : List SaidMessage) (events : List Event) :
    ((Runs.run (Event.record l channel) ms events).map SaidMessage.calls).flatten =
      (ms.map SaidMessage.calls).flatten ++ events.flatMap (Event.said l channel) := by
  induction events generalizing ms with
  | nil => exact (List.append_nil _).symm
  | cons e events ih =>
    refine (ih (e.record l channel ms)).trans ?_
    rw [flatten_record, List.flatMap_cons, List.append_assoc]

/-- Nothing is lost in a run whose events lose nothing. -/
lemma withFate_lost_run_record {events : List Event} (h : ∀ e ∈ events, e.Keeps)
    (channel : Session.Channel) (ms : List SaidMessage) :
    withFate .lost (Runs.run (Event.record l channel) ms events) = withFate .lost ms := by
  induction events generalizing ms with
  | nil => rfl
  | cons e events ih =>
    obtain ⟨he, hevents⟩ := List.forall_mem_cons.mp h
    exact (ih hevents (e.record l channel ms)).trans (withFate_lost_record l he channel ms)

/-- **The routing is told what the messages say that have arrived**: in every run, the messages of a
channel say what the sender said on it. What the routing of the receiver was told because of the channel
is what those of them say that have arrived, in this order; the others are lost or on their way. If
nothing is lost, the routing was told everything but for what is still on its way.

**Proof sketch.** The invariant holds along the run: each message on its way is understood, and has a
number after those before it. -/
theorem said_run (l : OfferLink) {events : List Event} (hevents : ∀ e ∈ events, e.Valid l)
    (channel : Session.Channel) :
    let x := Runs.run (step l) init events
    let ms := Runs.run (Event.record l channel) [] events
    let told := x.node.callsFrom l.cfg.unicast (l.address channel)
    let said := events.flatMap (Event.said l channel)
    told = (withFate .arrived ms).flatten ∧
      (ms.map SaidMessage.calls).flatten = said ∧
      (withFate .flying ms).length = (x.flight channel).length ∧
      ((∀ e ∈ events, e.Keeps) →
        withFate .lost ms = [] ∧ told ++ (withFate .flying ms).flatten = said) := by
  intro x ms told said
  obtain ⟨packets, hc⟩ := inv_init.run hevents channel
  have hsaid : (ms.map SaidMessage.calls).flatten = said := flatten_run_record channel [] events
  have htold : told = (withFate .arrived ms).flatten := hc.arrived
  refine ⟨htold, hsaid, ?_, fun hkeeps => ?_⟩
  · calc (withFate .flying ms).length
        = (packets.map Prod.snd).length := congrArg List.length hc.flying.symm
      _ = packets.length := List.length_map _
      _ = (x.flight channel).length := hc.carries.length_eq.symm
  · have hlost : withFate .lost ms = [] := withFate_lost_run_record hkeeps channel []
    refine ⟨hlost, ?_⟩
    rw [htold, ← List.flatten_append, hc.inOrder.arrived_append_flying hlost, hsaid]

/-! ### An exchange -/

/-- Two nodes with IPv4 addresses. -/
def exampleLink : OfferLink where
  cfg := { unicast := .v4 ⟨[10, 0, 0, 1], rfl⟩, reliable := false, ttl := 3, isSuspended := false,
           isDiagnosis := false, isSomeip := fun _ => true }
  diagnosisAddress := 0
  node := { unicast := .v4 ⟨[10, 0, 0, 2], rfl⟩, isSuspended := false, isDiagnosis := false,
            ttlFactor := fun _ => 1 }
  multicast := .v4 ⟨[224, 224, 224, 0], rfl⟩
  ttl_lt := by decide
  unicast_ne := by decide
  isSuspended := rfl
  isMulticast_unicast := by decide
  isMulticast_multicast := by decide

/-- An instance with a reliable and an unreliable endpoint. -/
def exampleServices : OfferedServices :=
  ⟨[instanceOffer 1 (some 30501) 30502], by decide⟩

/-- The instance is announced, and a node looks for any instance of the service. The announcement is
lost, but not the next one. The sender sends another message on the unicast channel. -/
def exampleEvents : List Event :=
  [.announce false exampleServices
      [exampleLink.cfg.insertOffer createMessage (instanceOffer 1 (some 30501) 30502)] fun _ => true,
    .find exampleServices ⟨1, 0xFFFF, 0xFF, 0xFFFFFFFF, true⟩ true fun _ => true,
    .other .unicast createMessage true, .lose .multicast 0, .deliver .unicast fun _ => 0,
    .announce false exampleServices
      [exampleLink.cfg.insertOffer createMessage (instanceOffer 1 (some 30501) 30502)] fun _ => true,
    .deliver .unicast fun _ => 0, .deliver .multicast fun _ => 0]

/-- The routing of the receiver is told of the instance by the second announcement. -/
theorem said_run_example :
    let x := Runs.run (step exampleLink) init exampleEvents
    let ms := Runs.run (Event.record exampleLink .multicast) [] exampleEvents
    let told := x.node.callsFrom exampleLink.cfg.unicast (exampleLink.address .multicast)
    let said := exampleEvents.flatMap (Event.said exampleLink .multicast)
    told = (withFate .arrived ms).flatten ∧
      (ms.map SaidMessage.calls).flatten = said ∧
      (withFate .flying ms).length = (x.flight .multicast).length ∧
      ((∀ e ∈ exampleEvents, e.Keeps) →
        withFate .lost ms = [] ∧ told ++ (withFate .flying ms).flatten = said) := by
  refine said_run exampleLink (fun e he => ?_) .multicast
  have hv4 : ∀ o : Offer, exampleLink.cfg.Paired o := fun _ h => absurd h Bool.false_ne_true
  simp only [exampleEvents, List.mem_cons, List.not_mem_nil, or_false] at he
  obtain rfl | rfl | rfl | rfl | rfl | rfl | rfl | rfl := he
  · exact ⟨fun o _ => hv4 o, 1, rfl⟩
  · exact fun o _ => hv4 o
  · exact noOffers_createMessage
  · trivial
  · trivial
  · exact ⟨fun o _ => hv4 o, 1, rfl⟩
  · trivial
  · trivial

end Exchange

end Vsomeip.Sd
