import Vsomeip.Lib.Loop
import Vsomeip.Lib.Packing
import Vsomeip.ServiceDiscovery.InsertOption

set_option relaxedAutoImplicit false
set_option autoImplicit false

/-!
# OfferService entries

`service_discovery_impl::fill_message_with_offer_entries` puts an OfferService entry into a message for
each of the instances it is given, if the instance has an endpoint, and the options for its endpoints.
An option that the message has already is not created again. If an entry and its options do not fit
into the rest of a message, another message is created, and the next pass over the instances starts
where the last one has stopped.

The room for an entry is reserved before the options are inserted, by a look-up for each endpoint. If
the unicast address is an IPv6 address, the look-up for the unreliable endpoint takes the port of the
reliable endpoint, which may be a null pointer. Otherwise the look-up may find an option although the
one for the unreliable endpoint has to be created, and the message may become too long.

A service offers its endpoints by their local ports. The number of instances that was passed has 32
bits in the source; a map has no more instances than that. That an instance whose time to live is zero
is removed from the routing, is left out.

## Main definitions

* `Vsomeip.Sd.insertOfferService`, `Vsomeip.Sd.insertOfferEntries`,
  `Vsomeip.Sd.fillMessageWithOfferEntries` — the functions of the source.
* `Vsomeip.Sd.OffersPaged` — there is one entry for each instance, with its options, and no message is
  too long.
* `Vsomeip.Sd.Offerable` — the condition on the instances.

## Main results

* `Vsomeip.Sd.offersPaged_iff` — the instances are paged as expected exactly if they meet the condition.
* `Vsomeip.Sd.offerable_of_v4`, `Vsomeip.Sd.offerable_of_distinct` — they do if the address is an IPv4
  address, or if no two instances share a port over different protocols.
-/

namespace Vsomeip.Sd

/-- `serviceinfo`. The local ports of the endpoints stand for `get_endpoint`. -/
structure OfferedInfo where
  major : UInt8
  minor : UInt32
  ttl : UInt32
  endpoint : Bool → Option UInt16
  isInMainphase : Bool

/-- An instance has an endpoint, and is in the main phase if this matters. -/
def OfferedInfo.isOffered (ignorePhase : Bool) (info : OfferedInfo) : Bool :=
  (ignorePhase || info.isInMainphase) && ((info.endpoint false).isSome || (info.endpoint true).isSome)

/-- A place in a map of services: service and instance, and the `serviceinfo`. -/
abbrev Offer : Type := (UInt16 × UInt16) × OfferedInfo

/-- `services_t`: a map with an ordered key, in the order in which it is traversed. -/
structure OfferedServices where
  entries : List Offer
  sorted : entries.Pairwise fun a b => a.1.1 < b.1.1 ∨ a.1.1 = b.1.1 ∧ a.1.2 < b.1.2

/-- The members of `service_discovery_impl` that offers depend on: `unicast_`, `reliable_`, `ttl_`,
`is_suspended_`, `is_diagnosis_`, and the configured services. -/
structure OfferConfig where
  unicast : IpAddress
  reliable : Bool
  ttl : UInt32
  isSuspended : Bool
  isDiagnosis : Bool
  isSomeip : UInt16 × UInt16 → Bool

/-- A pointer to an endpoint is null. -/
inductive OfferFault
  | nullEndpoint
deriving DecidableEq

/-- What `insert_offer_entries` leaves behind: the message, `_start` and `_done`. -/
structure OfferPage where
  message : MessageImpl
  start : ℕ
  done : Bool

/-- The state of the loop in `fill_message_with_offer_entries`: the messages that are full, and
`its_start`. -/
structure OfferLoop where
  messages : List MessageImpl
  start : ℕ

namespace OfferConfig

variable (cfg : OfferConfig)

/-- `max_message_size_`: `VSOMEIP_MAX_TCP_SD_PAYLOAD` or `VSOMEIP_MAX_UDP_SD_PAYLOAD`. -/
def maxMessageSize : ℕ := if cfg.reliable then 4075 else 1380

/-- The room for the option of an endpoint: none if the look-up finds one. -/
def endpointSize (options : List SdOption) (port : UInt16) (isReliable : Bool) : ℕ :=
  if (findExistingOption options cfg.unicast port (layerFourProtocol isReliable)
      (cfg.unicast.optionType false)).isSome then 0
  else cfg.unicast.optionSize

/-- The port for which the option of an unreliable endpoint is looked up. For an IPv6 address the
source has `its_reliable` in the place of `its_unreliable`. -/
def lookupPort (info : OfferedInfo) (port : UInt16) : Except OfferFault UInt16 :=
  match cfg.unicast, info.endpoint true with
  | .v4 _, _ => .ok port
  | .v6 _, some reliablePort => .ok reliablePort
  | .v6 _, none => .error .nullEndpoint

/-- `its_size` in `insert_offer_service`. -/
def offerSize (options : List SdOption) (info : OfferedInfo) : Except OfferFault ℕ :=
  let size := MessageImpl.sdEntrySize + match info.endpoint true with
    | some port => cfg.endpointSize options port true
    | none => 0
  match info.endpoint false with
  | some port => (cfg.lookupPort info port).map fun port => size + cfg.endpointSize options port false
  | none => .ok size

/-- The time to live of an offer. -/
def offerTtl (info : OfferedInfo) : UInt32 := if info.ttl > 0 then cfg.ttl else info.ttl

/-- The entry for an instance, without its options. -/
def offerEntry (o : Offer) : ServiceentryImpl :=
  { EntryImpl.init with
    type := .offerService, service := o.1.1, instance_ := o.1.2, majorVersion := o.2.major,
    minorVersion := o.2.minor, ttl := cfg.offerTtl o.2 }

/-- The option for an endpoint, if there is one, is inserted. -/
def insertEndpoint (info : OfferedInfo) (isReliable : Bool) (x : List SdOption × EntryImpl) :
    List SdOption × EntryImpl :=
  match info.endpoint isReliable with
  | some port => insertOption cfg.unicast x.1 x.2 cfg.unicast port isReliable
  | none => x

/-- The entry for an instance and its options are created. -/
def insertOffer (message : MessageImpl) (o : Offer) : MessageImpl :=
  let x := cfg.insertEndpoint o.2 false
    (cfg.insertEndpoint o.2 true (message.options, (cfg.offerEntry o).toEntryImpl))
  { message with
    options := x.1
    entries := message.entries ++ [.service { cfg.offerEntry o with toEntryImpl := x.2 }] }

/-- An instance is passed by `insert_offer_entries`. -/
def isVisible (o : Offer) : Bool :=
  !cfg.isSuspended && (!cfg.isDiagnosis || !cfg.isSomeip o.1)

end OfferConfig

section Functions

variable (cfg : OfferConfig) (ignorePhase : Bool)

/-- `insert_offer_service`: the message and `_size`, or `none` if the offer does not fit. -/
def insertOfferService (message : MessageImpl) (o : Offer) (size : ℕ) :
    Except OfferFault (Option (MessageImpl × ℕ)) :=
  (cfg.offerSize message.options o.2).map fun offerSize =>
    if offerSize ≤ size then some (cfg.insertOffer message o, size - offerSize) else none

/-- `insert_offer_entries` from a place in the map on. -/
def insertOfferEntries (start : ℕ) : List Offer → ℕ → MessageImpl → ℕ → Except OfferFault OfferPage
  | [], i, message, _ => .ok ⟨message, i, true⟩
  | o :: rest, i, message, size =>
    if cfg.isVisible o then
      if o.2.isOffered ignorePhase ∧ i ≥ start then
        match insertOfferService cfg message o size with
        | .error fault => .error fault
        | .ok (some (message, size)) => insertOfferEntries start rest (i + 1) message size
        | .ok none => .ok ⟨message, i, false⟩
      else insertOfferEntries start rest (i + 1) message size
    else insertOfferEntries start rest i message size

/-- A round of the loop in `fill_message_with_offer_entries`. -/
def offerRound (services : OfferedServices) (s : OfferLoop) :
    OfferLoop ⊕ Except OfferFault (List MessageImpl) :=
  match insertOfferEntries cfg ignorePhase s.start services.entries 0 createMessage
      cfg.maxMessageSize with
  | .error fault => .inr (.error fault)
  | .ok page =>
    if page.done then .inr (.ok (s.messages ++ [page.message]))
    else .inl { messages := s.messages ++ [page.message], start := page.start }

/-- `fill_message_with_offer_entries`: the messages. -/
def fillMessageWithOfferEntries (services : OfferedServices) :
    ℕ → Option (Except OfferFault (List MessageImpl)) :=
  Loop.run (offerRound cfg ignorePhase services) { messages := [], start := 0 }

end Functions

/-! ## What is expected -/

/-- The instances of a list that are offered. -/
def offered (ignorePhase : Bool) (vs : List Offer) : List Offer :=
  vs.filter fun o => o.2.isOffered ignorePhase

namespace OfferConfig

variable (cfg : OfferConfig)

/-- The option for an endpoint. -/
def endpointOption (isReliable : Bool) (port : UInt16) : SdOption :=
  cfg.unicast.endpointOption (layerFourProtocol isReliable) port

/-- The options for the endpoints of an instance. -/
def endpointOptions (info : OfferedInfo) : List SdOption :=
  (info.endpoint true).toList.map (cfg.endpointOption true) ++
    (info.endpoint false).toList.map (cfg.endpointOption false)

/-- An entry offers an instance and refers to the options for its endpoints, and to no others. -/
structure IsOffer (o : Offer) (options : List SdOption) (e : ServiceentryImpl) : Prop where
  type : e.type = .offerService
  key : (e.service, e.instance_) = o.1
  version : (e.majorVersion, e.minorVersion) = (o.2.major, o.2.minor)
  ttl : e.ttl = cfg.offerTtl o.2
  references : (e.references.map fun i => options[i]?).Perm ((cfg.endpointOptions o.2).map some)

/-- The instances that are not skipped. -/
def visible (services : OfferedServices) : List Offer := services.entries.filter cfg.isVisible

/-- The instances for which there are entries. -/
def offers (ignorePhase : Bool) (services : OfferedServices) : List Offer :=
  offered ignorePhase (cfg.visible services)

end OfferConfig

/-- The call ends, the entries of the messages offer the instances one by one, and no message is too
long. -/
def OffersPaged (cfg : OfferConfig) (ignorePhase : Bool) (services : OfferedServices) : Prop :=
  ∃ messages : List MessageImpl,
    Loop.Returns (fillMessageWithOfferEntries cfg ignorePhase services) (.ok messages) ∧
    List.Forall₂ (fun o (x : MessageImpl × Entry) =>
        ∃ e, x.2 = .service e ∧ cfg.IsOffer o x.1.options e)
      (cfg.offers ignorePhase services) (messages.flatMap fun m => m.entries.map fun e => (m, e)) ∧
    ∀ m ∈ messages, m.contentSize ≤ cfg.maxMessageSize

/-! ## The condition -/

/-- An instance of a page has an endpoint with the port. -/
def hasPort (page : List Offer) (isReliable : Bool) (port : UInt16) : Bool :=
  page.any fun o => o.2.endpoint isReliable == some port

namespace OfferConfig

variable (cfg : OfferConfig)

/-- For an IPv6 address the endpoints of an instance can be looked up. -/
def Paired (o : Offer) : Prop :=
  cfg.unicast.isV6 → (o.2.endpoint false).isSome → (o.2.endpoint true).isSome

/-- The port of the look-up for an unreliable endpoint, if there is a reliable one. -/
def lookedUp (info : OfferedInfo) (port : UInt16) : UInt16 :=
  match cfg.unicast with
  | .v4 _ => port
  | .v6 _ => (info.endpoint true).getD port

/-- The room for the option of an endpoint behind the instances of a page. -/
def endpointCost (page : List Offer) (isReliable : Bool) : Option UInt16 → ℕ
  | some port => if hasPort page isReliable port then 0 else cfg.unicast.optionSize
  | none => 0

/-- The room that is reserved for an instance. -/
def reserved (page : List Offer) (o : Offer) : ℕ :=
  MessageImpl.sdEntrySize + cfg.endpointCost page true (o.2.endpoint true) +
    cfg.endpointCost page false ((o.2.endpoint false).map (cfg.lookedUp o.2))

/-- The room that an instance needs. -/
def needed (page : List Offer) (o : Offer) : ℕ :=
  MessageImpl.sdEntrySize + cfg.endpointCost page true (o.2.endpoint true) +
    cfg.endpointCost page false (o.2.endpoint false)

/-- The room that is not reserved, because another port is found than that of the endpoint. -/
def missed (page : List Offer) (o : Offer) : ℕ :=
  match o.2.endpoint false with
  | some port =>
    if hasPort page false (cfg.lookedUp o.2 port) ∧ ¬ hasPort page false port then
      cfg.unicast.optionSize else 0
  | none => 0

/-- The room that is reserved in vain, because another port is looked up than that of the endpoint. -/
def vain (page : List Offer) (o : Offer) : ℕ :=
  match o.2.endpoint false with
  | some port =>
    if ¬ hasPort page false (cfg.lookedUp o.2 port) ∧ hasPort page false port then
      cfg.unicast.optionSize else 0
  | none => 0

end OfferConfig

/-- The condition on the instances that are offered. For an IPv6 address, an instance with an
unreliable endpoint has a reliable one. If the instances are put on pages by the room that is reserved
for them, then on each page the room that is missed is not more than what was reserved in vain and what
is left. -/
structure Offerable (cfg : OfferConfig) (ignorePhase : Bool) (services : OfferedServices) : Prop where
  paired : ∀ o ∈ cfg.offers ignorePhase services, cfg.Paired o
  room : ∀ page ∈ Packing.pack cfg.reserved cfg.maxMessageSize (cfg.offers ignorePhase services),
    Packing.load cfg.reserved page + Packing.load cfg.missed page ≤
      cfg.maxMessageSize + Packing.load cfg.vain page

/-! ## Room -/

namespace OfferConfig

variable {cfg : OfferConfig}

/-- The port of the look-up is that of the endpoint itself or of the reliable endpoint. -/
lemma lookedUp_eq (cfg : OfferConfig) (info : OfferedInfo) (port : UInt16) :
    cfg.lookedUp info port = port ∨ info.endpoint true = some (cfg.lookedUp info port) := by
  unfold lookedUp
  cases cfg.unicast with
  | v4 _ => exact Or.inl rfl
  | v6 _ =>
    cases info.endpoint true with
    | none => exact Or.inl rfl
    | some reliablePort => exact Or.inr rfl

/-- What an offer needs, what it reserves in vain, and what it forgets to reserve. -/
lemma needed_add_vain (cfg : OfferConfig) (page : List Offer) (o : Offer) :
    cfg.needed page o + cfg.vain page o = cfg.reserved page o + cfg.missed page o := by
  unfold needed vain reserved missed
  cases hport : o.2.endpoint false with
  | none => rfl
  | some port =>
    rw [Option.map_some]
    unfold endpointCost
    dsimp only
    by_cases hlooked : hasPort page false (cfg.lookedUp o.2 port) <;>
      by_cases hown : hasPort page false port <;> simp [hlooked, hown]

/-- What the instances of a page need is compared with what is reserved for them. -/
lemma load_needed_le_iff (page : List Offer) :
    Packing.load cfg.needed page ≤ cfg.maxMessageSize ↔
      Packing.load cfg.reserved page + Packing.load cfg.missed page ≤
        cfg.maxMessageSize + Packing.load cfg.vain page := by
  rw [← Packing.load_add, ← funext fun pre => funext fun o => cfg.needed_add_vain pre o, Packing.load_add]
  exact (Nat.add_le_add_iff_right).symm

/-- An endpoint costs 24 bytes at most. -/
lemma endpointCost_le (cfg : OfferConfig) (page : List Offer) (isReliable : Bool) (port : Option UInt16) :
    cfg.endpointCost page isReliable port ≤ 24 := by
  unfold endpointCost
  split
  · split_ifs
    · exact Nat.zero_le _
    · exact cfg.unicast.optionSize_le
  · exact Nat.zero_le _

/-- The bounds of the maximum size of a message. -/
lemma maxMessageSize_bounds (cfg : OfferConfig) :
    1380 ≤ cfg.maxMessageSize ∧ cfg.maxMessageSize ≤ 4075 := by
  unfold maxMessageSize
  split <;> decide

/-- Every instance fits into an empty message. -/
lemma reserved_le (page : List Offer) (o : Offer) : cfg.reserved page o ≤ cfg.maxMessageSize := by
  have h1 := cfg.endpointCost_le page true (o.2.endpoint true)
  have h2 := cfg.endpointCost_le page false ((o.2.endpoint false).map (cfg.lookedUp o.2))
  have h3 := cfg.maxMessageSize_bounds
  unfold reserved MessageImpl.sdEntrySize
  omega

end OfferConfig

/-! ## A message -/

namespace OfferConfig

variable {cfg : OfferConfig} {message : MessageImpl} {page : List Offer} {o : Offer}

/-- Endpoint options are equal if transport and port are. -/
lemma endpointOption_inj {isReliable isReliable' : Bool} {port port' : UInt16} :
    cfg.endpointOption isReliable port = cfg.endpointOption isReliable' port' ↔
      isReliable = isReliable' ∧ port = port' := by
  unfold endpointOption
  rw [IpAddress.endpointOption_inj]
  refine and_congr_left fun _ => ⟨fun h => ?_, congrArg layerFourProtocol⟩
  revert isReliable isReliable'
  decide

/-- A message has the entries and the options for the instances of a page. Sixteen bytes at least are
reserved for each option. -/
structure Represents (cfg : OfferConfig) (message : MessageImpl) (page : List Offer) : Prop where
  offers : List.Forall₂ (fun o x => ∃ e, x = Entry.service e ∧ cfg.IsOffer o message.options e) page
    message.entries
  mem_options : ∀ isReliable port,
    cfg.endpointOption isReliable port ∈ message.options ↔ hasPort page isReliable port
  contentSize : message.contentSize = Packing.load cfg.needed page
  length_le : 16 * message.options.length ≤ Packing.load cfg.reserved page

/-- A new message represents the empty page. -/
lemma represents_createMessage : cfg.Represents createMessage [] where
  offers := .nil
  mem_options _ _ := iff_of_false List.not_mem_nil nofun
  contentSize := rfl
  length_le := Nat.le_refl 0

/-- The ports of a page with one offer more. -/
lemma hasPort_append (page : List Offer) (o : Offer) (isReliable : Bool) (port : UInt16) :
    hasPort (page ++ [o]) isReliable port ↔
      hasPort page isReliable port ∨ o.2.endpoint isReliable = some port := by
  unfold hasPort
  rw [List.any_append, Bool.or_eq_true, List.any_cons, List.any_nil, Bool.or_false, beq_iff_eq]

/-- The options of a message with those for an instance. -/
def addEndpoint (cfg : OfferConfig) (options : List SdOption) (isReliable : Bool) :
    Option UInt16 → List SdOption
  | some port => addOption options (cfg.endpointOption isReliable port)
  | none => options

/-- The room that the look-up of an endpoint reserves is that for the option. -/
lemma Represents.endpointSize_eq (h : cfg.Represents message page) (port : UInt16)
    (isReliable : Bool) : cfg.endpointSize message.options port isReliable =
      cfg.endpointCost page isReliable (some port) := by
  unfold endpointSize endpointCost
  exact if_congr ((findExistingOption_isSome _ _ _ _).trans (h.mem_options isReliable port)) rfl rfl

/-- `its_size` is the room that is reserved, if the endpoints are not null. -/
lemma Represents.offerSize_eq (h : cfg.Represents message page) (hpaired : cfg.Paired o) :
    cfg.offerSize message.options o.2 = .ok (cfg.reserved page o) := by
  have hreliable : (match o.2.endpoint true with
      | some port => cfg.endpointSize message.options port true
      | none => 0) = cfg.endpointCost page true (o.2.endpoint true) := by
    cases o.2.endpoint true with
    | none => rfl
    | some port => exact h.endpointSize_eq port true
  unfold offerSize reserved
  dsimp only
  rw [hreliable]
  cases hport : o.2.endpoint false with
  | none => rfl
  | some port =>
    have hlookup : cfg.lookupPort o.2 port = .ok (cfg.lookedUp o.2 port) := by
      unfold lookupPort lookedUp
      cases hunicast : cfg.unicast with
      | v4 _ => rfl
      | v6 _ =>
        obtain ⟨reliablePort, hreliablePort⟩ := Option.isSome_iff_exists.mp
          (hpaired (congrArg IpAddress.isV6 hunicast) (Option.isSome_iff_exists.mpr ⟨port, hport⟩))
        rw [hreliablePort]
        rfl
    dsimp only
    rw [hlookup, Except.map, h.endpointSize_eq]
    rfl

/-- If the reliable endpoint is null, the look-up for the unreliable one fails. -/
lemma offerSize_eq_error (hv6 : cfg.unicast.isV6) (hunreliable : (o.2.endpoint false).isSome)
    (hreliable : o.2.endpoint true = none) (options : List SdOption) :
    cfg.offerSize options o.2 = .error .nullEndpoint := by
  obtain ⟨port, hport⟩ := Option.isSome_iff_exists.mp hunreliable
  unfold offerSize lookupPort
  rw [hport, hreliable]
  cases hunicast : cfg.unicast with
  | v4 _ =>
    rw [hunicast] at hv6
    exact absurd hv6 Bool.false_ne_true
  | v6 _ => rfl

/-! ### The references -/

/-- Inserting an endpoint adds its option, if there is a port. -/
lemma insertEndpoint_eq (info : OfferedInfo) (isReliable : Bool) (x : List SdOption × EntryImpl) :
    cfg.insertEndpoint info isReliable x = match info.endpoint isReliable with
      | some port =>
        (addOption x.1 (cfg.endpointOption isReliable port), x.2.assignOption (UInt8.ofNat
          ((addOption x.1 (cfg.endpointOption isReliable port)).idxOf
            (cfg.endpointOption isReliable port))))
      | none => x := by
  unfold insertEndpoint
  cases info.endpoint isReliable with
  | none => rfl
  | some port => exact insertOption_eq _ _ _ _ _

/-- The options of a message with those for an instance. -/
def offerOptions (cfg : OfferConfig) (options : List SdOption) (info : OfferedInfo) : List SdOption :=
  cfg.addEndpoint (cfg.addEndpoint options true (info.endpoint true)) false (info.endpoint false)

/-- An entry that refers to the options for an instance. -/
def assignOptions (cfg : OfferConfig) (options : List SdOption) (info : OfferedInfo) (e : EntryImpl) :
    EntryImpl :=
  (cfg.endpointOptions info).foldl (fun e opt => e.assignOption (UInt8.ofNat (options.idxOf opt))) e

/-- The indices of the options do not change, when the second option is inserted. -/
lemma insertOffer_eq (message : MessageImpl) (o : Offer) : cfg.insertOffer message o =
    { message with
      options := cfg.offerOptions message.options o.2
      entries := message.entries ++ [.service { cfg.offerEntry o with
        toEntryImpl := cfg.assignOptions (cfg.offerOptions message.options o.2) o.2
          (cfg.offerEntry o).toEntryImpl }] } := by
  unfold insertOffer offerOptions assignOptions endpointOptions addEndpoint
  dsimp only
  rw [insertEndpoint_eq, insertEndpoint_eq]
  cases o.2.endpoint true with
  | none => cases o.2.endpoint false <;> rfl
  | some port =>
    cases o.2.endpoint false with
    | none => rfl
    | some port' =>
      have hindex := (prefix_addOption (addOption message.options (cfg.endpointOption true port))
        (cfg.endpointOption false port')).idxOf_eq_of_mem mem_addOption_self
      dsimp only [Option.toList_some, List.map_cons, List.map_nil, List.cons_append, List.nil_append,
        List.foldl_cons, List.foldl_nil]
      rw [hindex]
      rfl

/-- The indices that an entry has are those of its options. -/
lemma references_assignOptions {options : List SdOption} {info : OfferedInfo} {e : EntryImpl}
    (he : e.Bare) (hmem : ∀ opt ∈ cfg.endpointOptions info, opt ∈ options)
    (hlength : options.length ≤ 256) :
    ((cfg.assignOptions options info e).references.map fun i => options[i]?).Perm
      ((cfg.endpointOptions info).map some) := by
  have hindices : (cfg.assignOptions options info e).references.Perm
      ((cfg.endpointOptions info).map fun opt => options.idxOf opt) := by
    have hlt : ∀ opt ∈ cfg.endpointOptions info, options.idxOf opt < 256 := fun opt h =>
      (List.idxOf_lt_length_of_mem (hmem opt h)).trans_le hlength
    unfold assignOptions
    unfold endpointOptions at hmem hlt ⊢
    generalize info.endpoint true = reliable at hmem hlt ⊢
    generalize info.endpoint false = unreliable at hmem hlt ⊢
    cases reliable with
    | none =>
      cases unreliable with
      | none => exact he.references ▸ List.Perm.nil
      | some port =>
        exact List.Perm.of_eq (EntryImpl.references_assignOption he (hlt _ (List.mem_singleton_self _)))
    | some port =>
      cases unreliable with
      | none =>
        exact List.Perm.of_eq (EntryImpl.references_assignOption he (hlt _ (List.mem_singleton_self _)))
      | some port' =>
        have ht : cfg.endpointOption true port ∈ options := hmem _ List.mem_cons_self
        refine EntryImpl.references_assignOption_assignOption he (hlt _ List.mem_cons_self)
          (hlt _ (List.mem_cons_of_mem _ (List.mem_singleton_self _))) fun heq => ?_
        exact Bool.noConfusion (endpointOption_inj.mp ((List.idxOf_inj ht).mp heq)).1
  refine (hindices.map _).trans (List.Perm.of_eq ?_)
  rw [List.map_map]
  exact List.map_congr_left fun opt h => List.getElem?_idxOf (hmem opt h)

/-! ### The options -/

/-- The number of options that are created for an endpoint. -/
def created (page : List Offer) (isReliable : Bool) : Option UInt16 → ℕ
  | some port => if hasPort page isReliable port then 0 else 1
  | none => 0

/-- One option at most is made for an endpoint. -/
lemma created_le (page : List Offer) (isReliable : Bool) (port : Option UInt16) :
    created page isReliable port ≤ 1 := by
  unfold created
  split
  · split_ifs <;> decide
  · exact Nat.zero_le 1

/-- The cost of an endpoint is that of the option that is made for it. -/
lemma endpointCost_eq (page : List Offer) (isReliable : Bool) (port : Option UInt16) :
    cfg.endpointCost page isReliable port = created page isReliable port * cfg.unicast.optionSize := by
  unfold endpointCost created
  split
  · split_ifs
    · exact (Nat.zero_mul _).symm
    · exact (Nat.one_mul _).symm
  · exact (Nat.zero_mul _).symm

/-- Sixteen bytes at least are reserved for each option that is created: the room for the entry is
enough for an option that is missed. -/
lemma created_le_reserved (page : List Offer) (o : Offer) :
    16 * (created page true (o.2.endpoint true) + created page false (o.2.endpoint false)) ≤
      cfg.reserved page o := by
  have htrue := created_le page true (o.2.endpoint true)
  have hfalse := created_le page false (o.2.endpoint false)
  unfold reserved MessageImpl.sdEntrySize
  rw [endpointCost_eq, endpointCost_eq]
  cases hunicast : cfg.unicast with
  | v4 bytes =>
    have hlooked : (o.2.endpoint false).map (cfg.lookedUp o.2) = o.2.endpoint false := by
      unfold lookedUp
      rw [hunicast]
      exact Option.map_id'
    rw [hlooked, IpAddress.optionSize]
    omega
  | v6 bytes =>
    rw [IpAddress.optionSize]
    omega

/-- The options after an endpoint is added. -/
lemma mem_addEndpoint_iff {options : List SdOption} {isReliable : Bool} {port : Option UInt16}
    {opt : SdOption} : opt ∈ cfg.addEndpoint options isReliable port ↔
      opt ∈ options ∨ ∃ p, port = some p ∧ opt = cfg.endpointOption isReliable p := by
  unfold addEndpoint
  cases port with
  | none => exact (or_iff_left fun ⟨_, h, _⟩ => nomatch h).symm
  | some p =>
    rw [mem_addOption_iff]
    exact or_congr_right ⟨fun h => ⟨p, rfl, h⟩, fun ⟨_, hp, h⟩ => Option.some.inj hp ▸ h⟩

/-- An endpoint is added behind the options that are there. -/
lemma prefix_addEndpoint (options : List SdOption) (isReliable : Bool) (port : Option UInt16) :
    options <+: cfg.addEndpoint options isReliable port := by
  unfold addEndpoint
  cases port with
  | none => exact List.prefix_rfl
  | some p => exact prefix_addOption _ _

/-- The number and the size of the options with that of an endpoint. -/
lemma sizes_addEndpoint {options : List SdOption} {isReliable : Bool}
    (hmem : ∀ p, cfg.endpointOption isReliable p ∈ options ↔ hasPort page isReliable p)
    (port : Option UInt16) :
    (cfg.addEndpoint options isReliable port).length = options.length + created page isReliable port ∧
      ((cfg.addEndpoint options isReliable port).map fun o => o.bytes.length).sum =
        (options.map fun o => o.bytes.length).sum + cfg.endpointCost page isReliable port := by
  unfold addEndpoint created endpointCost
  cases port with
  | none => exact ⟨rfl, rfl⟩
  | some p =>
    dsimp only
    unfold addOption
    by_cases h : hasPort page isReliable p
    · rw [if_pos ((hmem p).mpr h), if_pos h, if_pos h]
      exact ⟨rfl, rfl⟩
    · rw [if_neg (mt (hmem p).mp h), if_neg h, if_neg h, List.map_append, List.sum_append,
        List.length_append]
      refine ⟨rfl, congrArg _ ?_⟩
      exact (Nat.add_zero _).trans (IpAddress.length_endpointOption _ _ _)

/-- The options after those of an offer are added. -/
lemma mem_offerOptions_iff {options : List SdOption} {info : OfferedInfo} {opt : SdOption} :
    opt ∈ cfg.offerOptions options info ↔
      opt ∈ options ∨ ∃ isReliable p, info.endpoint isReliable = some p ∧
        opt = cfg.endpointOption isReliable p := by
  unfold offerOptions
  rw [mem_addEndpoint_iff, mem_addEndpoint_iff, Bool.exists_bool, or_assoc]
  exact or_congr_right or_comm

/-- The number and the size of the options with those of an offer. -/
lemma Represents.sizes_offerOptions (h : cfg.Represents message page) (info : OfferedInfo) :
    (cfg.offerOptions message.options info).length = message.options.length +
        (created page true (info.endpoint true) + created page false (info.endpoint false)) ∧
      ((cfg.offerOptions message.options info).map fun o => o.bytes.length).sum =
        (message.options.map fun o => o.bytes.length).sum +
          (cfg.endpointCost page true (info.endpoint true) +
            cfg.endpointCost page false (info.endpoint false)) := by
  have hoptions : ∀ p, cfg.endpointOption false p ∈
      cfg.addEndpoint message.options true (info.endpoint true) ↔ hasPort page false p := fun p => by
    rw [mem_addEndpoint_iff, or_iff_left fun ⟨_, _, heq⟩ => Bool.noConfusion (endpointOption_inj.mp heq).1]
    exact h.mem_options false p
  have hfirst := sizes_addEndpoint (h.mem_options true) (info.endpoint true)
  have hsecond := sizes_addEndpoint hoptions (info.endpoint false)
  unfold offerOptions
  rw [hsecond.1, hsecond.2, hfirst.1, hfirst.2, Nat.add_assoc, Nat.add_assoc]
  exact ⟨rfl, rfl⟩

/-- What an entry refers to does not change, when options are added. -/
lemma IsOffer.mono {options options' : List SdOption} {e : ServiceentryImpl}
    (h : cfg.IsOffer o options e) (hgrows : options <+: options') : cfg.IsOffer o options' e where
  type := h.type
  key := h.key
  version := h.version
  ttl := h.ttl
  references := by
    have hsame : (e.references.map fun i => options'[i]?) = e.references.map fun i => options[i]? := by
      refine List.map_congr_left fun i hi => ?_
      have hsome := h.references.subset (List.mem_map_of_mem (f := fun i => options[i]?) hi)
      obtain ⟨opt, -, hopt⟩ := List.mem_map.mp hsome
      obtain ⟨rest, rfl⟩ := hgrows
      rw [← hopt]
      exact List.getElem?_append_left (List.getElem?_eq_some_iff.mp hopt.symm).1 |>.trans hopt.symm
    exact hsame ▸ h.references

/-- Assigning its options keeps the identity of an entry. -/
lemma identity_assignOptions (cfg : OfferConfig) (options : List SdOption) (info : OfferedInfo)
    (e : EntryImpl) : (cfg.assignOptions options info e).identity = e.identity := by
  unfold assignOptions
  generalize cfg.endpointOptions info = opts
  induction opts generalizing e with
  | nil => rfl
  | cons opt opts ih => exact (ih _).trans (e.identity_assignOption _)

/-- The entry that is created for an instance. -/
lemma isOffer_assignOptions {options : List SdOption}
    (hlength : (cfg.offerOptions options o.2).length ≤ 256) :
    cfg.IsOffer o (cfg.offerOptions options o.2) { cfg.offerEntry o with
      toEntryImpl := cfg.assignOptions (cfg.offerOptions options o.2) o.2
        (cfg.offerEntry o).toEntryImpl } := by
  have hidentity := cfg.identity_assignOptions (cfg.offerOptions options o.2) o.2
    (cfg.offerEntry o).toEntryImpl
  obtain ⟨htype, hservice, hinstance, hmajor, httl⟩ := EntryImpl.identity_inj.mp hidentity
  refine ⟨htype, Prod.ext hservice hinstance, Prod.ext hmajor rfl, httl, ?_⟩
  refine references_assignOptions ⟨rfl, rfl⟩ (fun opt hopt => mem_offerOptions_iff.mpr (Or.inr ?_)) hlength
  rcases List.mem_append.mp hopt with h | h
  · obtain ⟨p, hp, rfl⟩ := List.mem_map.mp h
    exact ⟨true, p, Option.mem_toList.mp hp, rfl⟩
  · obtain ⟨p, hp, rfl⟩ := List.mem_map.mp h
    exact ⟨false, p, Option.mem_toList.mp hp, rfl⟩

/-- An instance is put on the page of a message. -/
lemma Represents.insertOffer (h : cfg.Represents message page)
    (hroom : Packing.load cfg.reserved page + cfg.reserved page o ≤ cfg.maxMessageSize) :
    cfg.Represents (cfg.insertOffer message o) (page ++ [o]) := by
  obtain ⟨hlength, hsize⟩ := h.sizes_offerOptions o.2
  have hcreated := cfg.created_le_reserved page o
  have hmax := cfg.maxMessageSize_bounds
  rw [insertOffer_eq]
  refine ⟨?_, fun isReliable port => ?_, ?_, ?_⟩
  · have hgrows : message.options <+: cfg.offerOptions message.options o.2 :=
      (prefix_addEndpoint _ _ _).trans (prefix_addEndpoint _ _ _)
    refine List.rel_append (h.offers.imp fun _ _ ⟨e, he, hoffer⟩ => ⟨e, he, hoffer.mono hgrows⟩)
      (.cons ⟨_, rfl, isOffer_assignOptions ?_⟩ .nil)
    have := h.length_le
    omega
  · rw [mem_offerOptions_iff, h.mem_options, hasPort_append]
    refine or_congr_right ⟨?_, fun hport => ⟨isReliable, port, hport, rfl⟩⟩
    rintro ⟨isReliable', port', hport, heq⟩
    obtain ⟨rfl, rfl⟩ := endpointOption_inj.mp heq
    exact hport
  · have hcontent := h.contentSize
    unfold MessageImpl.contentSize at hcontent ⊢
    rw [Packing.load_append_singleton, needed, List.length_append, List.length_singleton, Nat.add_one_mul,
      hsize]
    omega
  · rw [Packing.load_append_singleton, hlength, Nat.mul_add]
    exact Nat.add_le_add h.length_le hcreated

end OfferConfig

/-! ## A pass over the instances -/

section Pass

variable {cfg : OfferConfig} {ignorePhase : Bool} {message : MessageImpl} {page vs : List Offer}
variable {start i size : ℕ} {o : Offer}

/-- `insert_offer_service` inserts an offer that fits. -/
lemma insertOfferService_eq (h : cfg.Represents message page) (hpaired : cfg.Paired o) (size : ℕ) :
    insertOfferService cfg message o size = .ok (if cfg.reserved page o ≤ size then
      some (cfg.insertOffer message o, size - cfg.reserved page o) else none) := by
  rw [insertOfferService, h.offerSize_eq hpaired]
  rfl

/-- Only the instances that are not skipped count. -/
lemma insertOfferEntries_filter (es : List Offer) (i : ℕ) (message : MessageImpl) (size : ℕ) :
    insertOfferEntries cfg ignorePhase start es i message size =
      insertOfferEntries cfg ignorePhase start (es.filter cfg.isVisible) i message size := by
  induction es generalizing i message size with
  | nil => rfl
  | cons o es ih =>
    by_cases hvisible : cfg.isVisible o
    · rw [List.filter_cons_of_pos hvisible]
      simp only [insertOfferEntries, if_pos hvisible, ih]
    · rw [List.filter_cons_of_neg hvisible]
      simp only [insertOfferEntries, if_neg hvisible, ih]

/-- A pass starts at the given place. -/
lemma insertOfferEntries_skip (hvisible : ∀ o ∈ vs, cfg.isVisible o) {k : ℕ} (hk : k ≤ vs.length) :
    insertOfferEntries cfg ignorePhase (i + k) vs i message size =
      insertOfferEntries cfg ignorePhase (i + k) (vs.drop k) (i + k) message size := by
  induction k generalizing i vs with
  | zero => rfl
  | succ k ih =>
    cases vs with
    | nil => exact absurd hk (Nat.not_succ_le_zero k)
    | cons o vs =>
      obtain ⟨ho, hvs⟩ := List.forall_mem_cons.mp hvisible
      rw [List.drop_succ_cons, insertOfferEntries, if_pos ho, if_neg fun h => ?_]
      · have hrest := @ih vs (i + 1) hvs (Nat.le_of_succ_le_succ hk)
        rw [Nat.add_right_comm i 1 k] at hrest
        exact hrest
      · exact absurd h.2 (by omega)

/-- The result of a pass that starts with a page: it comes to the end of the instances, or to one that
does not fit on the page. -/
inductive PassResult (cfg : OfferConfig) (ignorePhase : Bool) (page vs : List Offer) (i : ℕ) :
    Except OfferFault OfferPage → Prop
  | done (message : MessageImpl) (hrep : cfg.Represents message (page ++ offered ignorePhase vs))
      (hpack : Packing.packFrom cfg.reserved cfg.maxMessageSize page (offered ignorePhase vs) =
        [page ++ offered ignorePhase vs]) :
      PassResult cfg ignorePhase page vs i (.ok ⟨message, i + vs.length, true⟩)
  | full (message : MessageImpl) (page' vs1 vs2 : List Offer) (hvs : vs = vs1 ++ vs2)
      (hprogress : page = [] → vs1 ≠ []) (hrep : cfg.Represents message page')
      (hpack : Packing.packFrom cfg.reserved cfg.maxMessageSize page (offered ignorePhase vs) =
        page' :: Packing.pack cfg.reserved cfg.maxMessageSize (offered ignorePhase vs2)) :
      PassResult cfg ignorePhase page vs i (.ok ⟨message, i + vs1.length, false⟩)

/-- An instance that is not offered does not matter. -/
lemma PassResult.skip {result : Except OfferFault OfferPage} (hoffered : ¬ o.2.isOffered ignorePhase)
    (h : PassResult cfg ignorePhase page vs (i + 1) result) :
    PassResult cfg ignorePhase page (o :: vs) i result := by
  have hcons : offered ignorePhase (o :: vs) = offered ignorePhase vs :=
    List.filter_cons_of_neg hoffered
  cases h with
  | done message hrep hpack =>
    rw [← hcons] at hrep hpack
    rw [Nat.add_right_comm i 1]
    exact .done message hrep hpack
  | full message page' vs1 vs2 hvs hprogress hrep hpack =>
    rw [← hcons] at hpack
    rw [Nat.add_right_comm i 1]
    exact .full message page' (o :: vs1) vs2 (congrArg (o :: ·) hvs) (fun _ => nofun) hrep hpack

/-- An instance that is offered and fits is put on the page. -/
lemma PassResult.put {result : Except OfferFault OfferPage} (hoffered : o.2.isOffered ignorePhase)
    (hfits : Packing.load cfg.reserved page + cfg.reserved page o ≤ cfg.maxMessageSize)
    (h : PassResult cfg ignorePhase (page ++ [o]) vs (i + 1) result) :
    PassResult cfg ignorePhase page (o :: vs) i result := by
  have hcons : offered ignorePhase (o :: vs) = o :: offered ignorePhase vs :=
    List.filter_cons_of_pos hoffered
  have happend : page ++ [o] ++ offered ignorePhase vs = page ++ offered ignorePhase (o :: vs) := by
    rw [hcons, List.append_assoc, List.singleton_append]
  have hpacked : Packing.packFrom cfg.reserved cfg.maxMessageSize page (offered ignorePhase (o :: vs)) =
      Packing.packFrom cfg.reserved cfg.maxMessageSize (page ++ [o]) (offered ignorePhase vs) := by
    rw [hcons, Packing.packFrom_of_fits hfits]
  cases h with
  | done message hrep hpack =>
    rw [happend] at hrep hpack
    rw [Nat.add_right_comm i 1]
    exact .done message hrep (hpacked.trans hpack)
  | full message page' vs1 vs2 hvs hprogress hrep hpack =>
    rw [Nat.add_right_comm i 1]
    exact .full message page' (o :: vs1) vs2 (congrArg (o :: ·) hvs) (fun _ => nofun) hrep
      (hpacked.trans hpack)

/-- A pass fills the page of the message.

**Proof sketch.** Induction on the instances. One that fits is put on the page, for which the room is
reserved; one that does not fit starts the next page, so that the first one of a pass fits. -/
lemma insertOfferEntries_result (hvisible : ∀ o ∈ vs, cfg.isVisible o)
    (hpaired : ∀ o ∈ offered ignorePhase vs, cfg.Paired o) (hstart : start ≤ i)
    (h : cfg.Represents message page)
    (hsize : Packing.load cfg.reserved page + size = cfg.maxMessageSize) :
    PassResult cfg ignorePhase page vs i
      (insertOfferEntries cfg ignorePhase start vs i message size) := by
  induction vs generalizing i message page size with
  | nil =>
    refine .done message ?_ ?_
    · rw [offered, List.filter_nil, List.append_nil]
      exact h
    · rw [offered, List.filter_nil, List.append_nil]
      rfl
  | cons o vs ih =>
    obtain ⟨ho, hvs⟩ := List.forall_mem_cons.mp hvisible
    rw [insertOfferEntries, if_pos ho]
    by_cases hoffered : o.2.isOffered ignorePhase
    · have hcons : offered ignorePhase (o :: vs) = o :: offered ignorePhase vs :=
        List.filter_cons_of_pos hoffered
      rw [hcons] at hpaired
      obtain ⟨hpo, hpaired⟩ := List.forall_mem_cons.mp hpaired
      rw [if_pos ⟨hoffered, hstart⟩, insertOfferService_eq h hpo]
      by_cases hfits : cfg.reserved page o ≤ size
      · have hroom : Packing.load cfg.reserved page + cfg.reserved page o ≤ cfg.maxMessageSize := by
          omega
        rw [if_pos hfits]
        refine .put hoffered hroom (ih hvs hpaired (Nat.le_succ_of_le hstart) (h.insertOffer hroom) ?_)
        rw [Packing.load_append_singleton]
        omega
      · have hroom : ¬ Packing.load cfg.reserved page + cfg.reserved page o ≤ cfg.maxMessageSize := by
          omega
        rw [if_neg hfits]
        refine .full message page [] (o :: vs) rfl (fun hpage => absurd ?_ hroom) h ?_
        · rw [hpage, Packing.load_nil, Nat.zero_add]
          exact cfg.reserved_le [] o
        · rw [hcons]
          exact Packing.packFrom_of_not_fits hroom (cfg.reserved_le [] o) _
    · have hcons : offered ignorePhase (o :: vs) = offered ignorePhase vs :=
        List.filter_cons_of_neg hoffered
      rw [hcons] at hpaired
      rw [if_neg fun h => hoffered h.1]
      exact .skip hoffered (ih hvs hpaired (Nat.le_succ_of_le hstart) h hsize)

end Pass

/-! ## The messages -/

section Messages

variable {cfg : OfferConfig} {ignorePhase : Bool} {services : OfferedServices}

/-- The offers that a pass goes through are visible. -/
lemma forall_visible (start : ℕ) : ∀ o ∈ (cfg.visible services).drop start, cfg.isVisible o :=
  fun _ h => (List.mem_filter.mp (List.mem_of_mem_drop h)).2

/-- The pass of a round. -/
lemma insertOfferEntries_start {start : ℕ} (hstart : start ≤ (cfg.visible services).length) :
    insertOfferEntries cfg ignorePhase start services.entries 0 createMessage cfg.maxMessageSize =
      insertOfferEntries cfg ignorePhase start ((cfg.visible services).drop start) start createMessage
        cfg.maxMessageSize := by
  have hskip := @insertOfferEntries_skip cfg ignorePhase createMessage (cfg.visible services) 0
    cfg.maxMessageSize (forall_visible 0) start hstart
  rw [insertOfferEntries_filter]
  rw [Nat.zero_add] at hskip
  exact hskip

/-- The messages of the loop are those of the pages of the instances that are left.

**Proof sketch.** Each pass that does not come to the end has put an instance on its page, so that there
are less instances left. -/
lemma returns_offers (hpaired : ∀ o ∈ cfg.offers ignorePhase services, cfg.Paired o) {start : ℕ}
    (hstart : start ≤ (cfg.visible services).length) (messages : List MessageImpl) :
    ∃ rest, Loop.Returns (Loop.run (offerRound cfg ignorePhase services) ⟨messages, start⟩)
        (.ok (messages ++ rest)) ∧
      List.Forall₂ cfg.Represents rest (Packing.pack cfg.reserved cfg.maxMessageSize
        (offered ignorePhase ((cfg.visible services).drop start))) := by
  induction hn : (cfg.visible services).length - start using Nat.strongRecOn
    generalizing start messages with
  | _ n ih =>
    have hsub : ∀ o ∈ offered ignorePhase ((cfg.visible services).drop start), cfg.Paired o :=
      fun o ho => hpaired o (((List.drop_sublist start _).filter _).subset ho)
    have hresult := insertOfferEntries_result (forall_visible start) hsub (Nat.le_refl start)
      cfg.represents_createMessage (Nat.zero_add cfg.maxMessageSize)
    rw [← insertOfferEntries_start hstart] at hresult
    generalize hpass : insertOfferEntries cfg ignorePhase start services.entries 0 createMessage
      cfg.maxMessageSize = result at hresult
    cases hresult with
    | done message hrep hpack =>
      have hround : offerRound cfg ignorePhase services ⟨messages, start⟩ =
          .inr (.ok (messages ++ [message])) := by
        simp only [offerRound, hpass, if_pos]
      refine ⟨[message], Loop.returns_of_inr hround, ?_⟩
      rw [Packing.pack, hpack]
      exact .cons hrep .nil
    | full message page vs1 vs2 hvs hprogress hrep hpack =>
      have hlength := congrArg List.length hvs
      rw [List.length_drop, List.length_append] at hlength
      have hpos : 0 < vs1.length := List.length_pos_iff.mpr (hprogress rfl)
      have hrest : (cfg.visible services).drop (start + vs1.length) = vs2 := by
        rw [← List.drop_drop, hvs, List.drop_left]
      have hnext : start + vs1.length ≤ (cfg.visible services).length := by omega
      have hround : offerRound cfg ignorePhase services ⟨messages, start⟩ =
          .inl ⟨messages ++ [message], start + vs1.length⟩ := by
        simp only [offerRound, hpass, Bool.false_eq_true, if_false]
      obtain ⟨rest, hreturns, hpages⟩ := ih ((cfg.visible services).length - (start + vs1.length))
        (by omega) hnext (messages ++ [message]) rfl
      refine ⟨message :: rest, Loop.returns_of_inl hround ?_, ?_⟩
      · rw [List.append_assoc, List.singleton_append] at hreturns
        exact hreturns
      · rw [Packing.pack, hpack]
        rw [hrest] at hpages
        exact .cons hrep hpages

/-- The endpoints of an instance that is not paired cannot be looked up. -/
lemma insertOfferService_unpaired {o : Offer} (h : ¬ cfg.Paired o) (message : MessageImpl) (size : ℕ) :
    insertOfferService cfg message o size = .error .nullEndpoint := by
  obtain ⟨hv6, h⟩ := Classical.not_imp.mp h
  obtain ⟨hunreliable, hreliable⟩ := Classical.not_imp.mp h
  rw [insertOfferService, OfferConfig.offerSize_eq_error hv6 hunreliable
    (Option.not_isSome_iff_eq_none.mp hreliable)]
  rfl

/-- The result of a pass over instances of which one cannot be looked up: it fails, or ends before that
one. -/
inductive UnpairedPass (cfg : OfferConfig) (ignorePhase : Bool) (vs : List Offer) (i : ℕ) :
    Except OfferFault OfferPage → Prop
  | fault (fault : OfferFault) : UnpairedPass cfg ignorePhase vs i (.error fault)
  | before (message : MessageImpl) (vs1 vs2 : List Offer) (hvs : vs = vs1 ++ vs2)
      (hbad : ∃ o ∈ offered ignorePhase vs2, ¬ cfg.Paired o) :
      UnpairedPass cfg ignorePhase vs i (.ok ⟨message, i + vs1.length, false⟩)

/-- A pass with one offer more in front. -/
lemma UnpairedPass.cons {vs : List Offer} {i : ℕ} {result : Except OfferFault OfferPage}
    (h : UnpairedPass cfg ignorePhase vs (i + 1) result) (o : Offer) :
    UnpairedPass cfg ignorePhase (o :: vs) i result := by
  cases h with
  | fault fault => exact .fault fault
  | before message vs1 vs2 hvs hbad =>
    rw [Nat.add_right_comm i 1]
    exact .before message (o :: vs1) vs2 (congrArg (o :: ·) hvs) hbad

/-- A pass over offers of which one is unpaired. -/
lemma insertOfferEntries_unpaired {vs : List Offer} {start i : ℕ}
    (hvisible : ∀ o ∈ vs, cfg.isVisible o) (hstart : start ≤ i)
    (hbad : ∃ o ∈ offered ignorePhase vs, ¬ cfg.Paired o) (message : MessageImpl) (size : ℕ) :
    UnpairedPass cfg ignorePhase vs i
      (insertOfferEntries cfg ignorePhase start vs i message size) := by
  induction vs generalizing i message size with
  | nil =>
    obtain ⟨o, ho, -⟩ := hbad
    exact absurd ho List.not_mem_nil
  | cons o vs ih =>
    obtain ⟨ho, hvs⟩ := List.forall_mem_cons.mp hvisible
    have hrest (hsub : ∀ o' ∈ offered ignorePhase (o :: vs), ¬ cfg.Paired o' →
        o' ∈ offered ignorePhase vs) (message : MessageImpl) (size : ℕ) :
        UnpairedPass cfg ignorePhase (o :: vs) i
          (insertOfferEntries cfg ignorePhase start vs (i + 1) message size) := by
      obtain ⟨o', ho', hpo'⟩ := hbad
      exact (ih hvs (Nat.le_succ_of_le hstart) ⟨o', hsub o' ho' hpo', hpo'⟩ message size).cons o
    rw [insertOfferEntries, if_pos ho]
    by_cases hoffered : o.2.isOffered ignorePhase
    · rw [if_pos ⟨hoffered, hstart⟩]
      have hcons : offered ignorePhase (o :: vs) = o :: offered ignorePhase vs :=
        List.filter_cons_of_pos hoffered
      by_cases hpo : cfg.Paired o
      · have hsub : ∀ o' ∈ offered ignorePhase (o :: vs), ¬ cfg.Paired o' →
            o' ∈ offered ignorePhase vs := fun o' ho' hpo' =>
          (List.mem_cons.mp (hcons ▸ ho')).resolve_left fun heq => hpo' (heq ▸ hpo)
        cases insertOfferService cfg message o size with
        | error fault => exact .fault fault
        | ok result =>
          cases result with
          | none => exact .before message [] (o :: vs) rfl hbad
          | some result => exact hrest hsub result.1 result.2
      · rw [insertOfferService_unpaired hpo]
        exact .fault _
    · rw [if_neg fun h => hoffered h.1]
      have hcons : offered ignorePhase (o :: vs) = offered ignorePhase vs :=
        List.filter_cons_of_neg hoffered
      exact hrest (fun o' ho' _ => hcons ▸ ho') message size

/-- If an instance cannot be looked up, there are no messages. -/
lemma not_returns_offers (hbad : ∃ o ∈ cfg.offers ignorePhase services, ¬ cfg.Paired o)
    (messages : List MessageImpl) :
    ¬ Loop.Returns (fillMessageWithOfferEntries cfg ignorePhase services) (.ok messages) := by
  have hpass {start : ℕ} (hstart : start ≤ (cfg.visible services).length)
      (hbad : ∃ o ∈ offered ignorePhase ((cfg.visible services).drop start), ¬ cfg.Paired o) :
      UnpairedPass cfg ignorePhase ((cfg.visible services).drop start) start (insertOfferEntries cfg
        ignorePhase start services.entries 0 createMessage cfg.maxMessageSize) := by
    rw [insertOfferEntries_start hstart]
    exact insertOfferEntries_unpaired (forall_visible start) (Nat.le_refl start) hbad _ _
  refine fun hreturns => Loop.of_returns (s := ⟨[], 0⟩)
    (I := fun s : OfferLoop => s.start ≤ (cfg.visible services).length ∧
      ∃ o ∈ offered ignorePhase ((cfg.visible services).drop s.start), ¬ cfg.Paired o)
    (Q := fun r => ∀ messages, r ≠ .ok messages) (fun {s s'} hinv hround => ?_)
    (fun {s r} hinv hround => ?_) ⟨Nat.zero_le _, hbad⟩ hreturns messages rfl
  · have hresult := hpass hinv.1 hinv.2
    unfold offerRound at hround
    generalize insertOfferEntries cfg ignorePhase s.start services.entries 0 createMessage
      cfg.maxMessageSize = result at hresult hround
    cases hresult with
    | fault fault => exact nomatch hround
    | before message vs1 vs2 hvs hbad =>
      obtain rfl := Sum.inl.inj hround
      have hlength := congrArg List.length hvs
      rw [List.length_drop, List.length_append] at hlength
      refine ⟨?_, ?_⟩
      · have := hinv.1
        dsimp only
        omega
      · rw [← List.drop_drop, hvs, List.drop_left]
        exact hbad
  · have hresult := hpass hinv.1 hinv.2
    unfold offerRound at hround
    generalize insertOfferEntries cfg ignorePhase s.start services.entries 0 createMessage
      cfg.maxMessageSize = result at hresult hround
    cases hresult with
    | fault fault =>
      obtain rfl := Sum.inr.inj hround
      exact fun _ => nofun
    | before message vs1 vs2 hvs hbad => exact nomatch hround

/-- More fuel does not change the messages. -/
lemma stable_fillMessageWithOfferEntries :
    Loop.Stable (fillMessageWithOfferEntries cfg ignorePhase services) :=
  Loop.stable_run _

/-- The entries of messages for some pages offer the instances of the pages one by one. -/
lemma forall₂_offers {messages : List MessageImpl} {pages : List (List Offer)}
    (h : List.Forall₂ cfg.Represents messages pages) :
    List.Forall₂ (fun o (x : MessageImpl × Entry) =>
        ∃ e, x.2 = .service e ∧ cfg.IsOffer o x.1.options e)
      pages.flatten (messages.flatMap fun m => m.entries.map fun e => (m, e)) := by
  induction h with
  | nil => exact .nil
  | cons hrep _ ih =>
    rw [List.flatten_cons, List.flatMap_cons]
    exact List.rel_append (List.forall₂_map_right_iff.mpr hrep.offers) ih

/-- The sizes of messages for some pages are those of the pages. -/
lemma forall_contentSize_iff {messages : List MessageImpl} {pages : List (List Offer)}
    (h : List.Forall₂ cfg.Represents messages pages) :
    (∀ m ∈ messages, m.contentSize ≤ cfg.maxMessageSize) ↔
      ∀ page ∈ pages, Packing.load cfg.needed page ≤ cfg.maxMessageSize := by
  induction h with
  | nil => exact iff_of_true nofun nofun
  | cons hrep _ ih => rw [List.forall_mem_cons, List.forall_mem_cons, hrep.contentSize, ih]

/-- The messages that are returned are as long as the pages need. -/
lemma contentSize_of_returns (hpaired : ∀ o ∈ cfg.offers ignorePhase services, cfg.Paired o)
    {messages : List MessageImpl}
    (h : Loop.Returns (fillMessageWithOfferEntries cfg ignorePhase services) (.ok messages)) :
    (∀ m ∈ messages, m.contentSize ≤ cfg.maxMessageSize) ↔
      ∀ page ∈ Packing.pack cfg.reserved cfg.maxMessageSize (cfg.offers ignorePhase services),
        Packing.load cfg.needed page ≤ cfg.maxMessageSize := by
  obtain ⟨messages', hreturns, hpages⟩ := returns_offers hpaired (Nat.zero_le _) []
  obtain rfl : messages = messages' :=
    Except.ok.inj (stable_fillMessageWithOfferEntries.unique h hreturns)
  exact forall_contentSize_iff hpages

/-- **When offers are paged**: the call ends with messages that have one entry for each instance that
is offered, with its options, and none of the messages is too long, exactly if the instances meet the
condition.

**Proof sketch.** If an instance cannot be looked up, the call fails. Otherwise the messages are those
of the pages on which the instances are put by the room that is reserved for them, and a message is as
long as the instances of its page need. -/
theorem offersPaged_iff (cfg : OfferConfig) (ignorePhase : Bool) (services : OfferedServices) :
    OffersPaged cfg ignorePhase services ↔ Offerable cfg ignorePhase services := by
  by_cases hpaired : ∀ o ∈ cfg.offers ignorePhase services, cfg.Paired o
  · constructor
    · rintro ⟨messages, hreturns, -, hle⟩
      exact ⟨hpaired, fun page hpage => (OfferConfig.load_needed_le_iff page).mp
        ((contentSize_of_returns hpaired hreturns).mp hle page hpage)⟩
    · intro h
      obtain ⟨messages, hreturns, hpages⟩ := returns_offers hpaired (Nat.zero_le _) []
      refine ⟨messages, hreturns, ?_, (contentSize_of_returns hpaired hreturns).mpr fun page hpage => ?_⟩
      · have hoffers := forall₂_offers hpages
        rw [Packing.flatten_pack] at hoffers
        exact hoffers
      · exact (OfferConfig.load_needed_le_iff page).mpr (h.room page hpage)
  · refine iff_of_false ?_ fun h => hpaired h.paired
    rintro ⟨messages, hreturns, -⟩
    obtain ⟨o, hbad⟩ := not_forall.mp hpaired
    exact not_returns_offers ⟨o, Classical.not_imp.mp hbad⟩ messages hreturns

/-! ## Instances that can be offered -/

/-- There is room on the pages, if enough is reserved for each instance. -/
lemma room_of_needed_le (h : ∀ pre o, (∀ o' ∈ pre ++ [o], o' ∈ cfg.offers ignorePhase services) →
    cfg.needed pre o ≤ cfg.reserved pre o) :
    ∀ page ∈ Packing.pack cfg.reserved cfg.maxMessageSize (cfg.offers ignorePhase services),
      Packing.load cfg.reserved page + Packing.load cfg.missed page ≤
        cfg.maxMessageSize + Packing.load cfg.vain page := by
  intro page hpage
  refine (OfferConfig.load_needed_le_iff page).mp ?_
  have hmem : ∀ o ∈ page, o ∈ cfg.offers ignorePhase services := fun o ho => by
    rw [← @Packing.flatten_pack _ cfg.reserved cfg.maxMessageSize (cfg.offers ignorePhase services)]
    exact List.mem_flatten_of_mem hpage ho
  refine (Packing.load_le_load page fun pre o post hsplit => h pre o fun o' ho' => hmem o' ?_).trans
    (Packing.load_le_of_mem_pack (cfg.reserved_le []) _ page hpage)
  rw [hsplit, ← List.singleton_append, ← List.append_assoc]
  exact List.mem_append_left post ho'

/-- For an IPv4 address every offer is paged. -/
lemma offerable_of_v4 (cfg : OfferConfig) (ignorePhase : Bool) (services : OfferedServices)
    (hv4 : ¬ cfg.unicast.isV6) : Offerable cfg ignorePhase services where
  paired _ _ hv6 := absurd hv6 hv4
  room := by
    refine room_of_needed_le fun pre o _ => Nat.le_of_eq ?_
    have hlooked : (o.2.endpoint false).map (cfg.lookedUp o.2) = o.2.endpoint false := by
      unfold OfferConfig.lookedUp
      cases hunicast : cfg.unicast with
      | v4 bytes => exact Option.map_id'
      | v6 bytes => exact absurd (congrArg IpAddress.isV6 hunicast) hv4
    rw [OfferConfig.needed, OfferConfig.reserved, hlooked]

/-- For an IPv6 address, offers are paged if they are paired, and no port is the one of a reliable and
of an unreliable endpoint of two instances. -/
lemma offerable_of_distinct (hpaired : ∀ o ∈ cfg.offers ignorePhase services, cfg.Paired o)
    (hdistinct : ∀ o ∈ cfg.offers ignorePhase services, ∀ o' ∈ cfg.offers ignorePhase services,
      ∀ port, o.2.endpoint true = some port → o'.2.endpoint false = some port →
        o.2.endpoint false = some port) : Offerable cfg ignorePhase services where
  paired := hpaired
  room := by
    refine room_of_needed_le fun pre o hmem => ?_
    have hmissed : cfg.missed pre o = 0 := by
      unfold OfferConfig.missed
      cases hport : o.2.endpoint false with
      | none => rfl
      | some port =>
        refine if_neg fun ⟨hfound, hnew⟩ => ?_
        have ho := hmem o (List.mem_append_right pre (List.mem_singleton_self o))
        obtain ⟨o', ho', hport'⟩ := List.any_eq_true.mp hfound
        have hother := hdistinct o ho o' (hmem o' (List.mem_append_left [o] ho'))
        have hlooked : cfg.lookedUp o.2 port = port := by
          refine (cfg.lookedUp_eq o.2 port).elim id fun hreliable => ?_
          exact Option.some.inj ((hother _ hreliable (beq_iff_eq.mp hport')).symm.trans hport)
        exact hnew (hlooked ▸ hfound)
    have := cfg.needed_add_vain pre o
    omega

end Messages

/-! ## Offers that are not paged -/

/-- A service discovery with an IPv6 address, over UDP. -/
def ipv6Config : OfferConfig where
  unicast := .v6 (List.Vector.replicate 16 0)
  reliable := false
  ttl := 3
  isSuspended := false
  isDiagnosis := false
  isSomeip _ := true

/-- An instance of the service 1 with its local ports. -/
def instanceOffer (instance_ : UInt16) (reliable : Option UInt16) (unreliable : UInt16) : Offer :=
  ((1, instance_), ⟨1, 0, 3, fun isReliable => if isReliable then reliable else some unreliable, true⟩)

/-- An instance that has an unreliable endpoint only. -/
def unreliableServices : OfferedServices :=
  ⟨[instanceOffer 1 none 30509], by decide⟩

/-- Instances with one reliable port. The unreliable port of the first one is the same. -/
def sharedServices : OfferedServices where
  entries := (List.range 34).map fun n =>
    instanceOffer (UInt16.ofNat n) (some 30509) (30509 + UInt16.ofNat n)
  sorted := by decide +kernel

/-- The look-up for an endpoint that is the only one fails. With a reliable port that is found, no room
is reserved for the unreliable ones. -/
theorem not_offersPaged :
    ¬ OffersPaged ipv6Config true unreliableServices ∧ ¬ OffersPaged ipv6Config true sharedServices := by
  refine ⟨fun ⟨messages, hreturns, _⟩ => ?_, fun ⟨messages, hreturns, _, hle⟩ => ?_⟩
  · have hmem : instanceOffer 1 none 30509 ∈ ipv6Config.offers true unreliableServices :=
      List.mem_filter.mpr ⟨List.mem_filter.mpr ⟨List.mem_singleton_self _, rfl⟩, rfl⟩
    exact not_returns_offers ⟨_, hmem, fun h => absurd (h rfl rfl) (by decide)⟩ messages hreturns
  · have hpaired : ∀ o ∈ ipv6Config.offers true sharedServices, ipv6Config.Paired o := by
      intro o ho _ _
      obtain ⟨n, -, rfl⟩ := List.mem_map.mp (List.mem_of_mem_filter (List.mem_of_mem_filter ho))
      rfl
    exact absurd ((contentSize_of_returns hpaired hreturns).mp hle) (by decide +kernel)

end Vsomeip.Sd
