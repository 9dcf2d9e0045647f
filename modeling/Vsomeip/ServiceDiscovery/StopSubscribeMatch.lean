import Mathlib.Data.List.Perm.Subperm
import Vsomeip.ServiceDiscovery.StopSubscribe

set_option relaxedAutoImplicit false
set_option autoImplicit false

/-!
# When a stop-subscribe matches a subscribe

`eventgroupentry_impl::is_matching_subscribe` is meant to find out whether two entries that refer to
options at different indices refer to the same endpoints. It looks every endpoint of the first entry up
among those of the second one, and compares how many there are. If the first entry refers to an endpoint
twice, one of the second entry may be none of the first, and the entries match all the same.

What is compared comes from a received message: the two runs of an entry are as long as its counts say,
and an IP option has the length of its class.

## Main definitions

* `Vsomeip.Sd.EventgroupentryImpl.endpoints` — the endpoints that an entry refers to.
* `Vsomeip.Sd.EventgroupentryImpl.ComparedExactly` — two entries match exactly if the first one stops
  what the second one subscribes to, for the same endpoints.

## Main results

* `Vsomeip.Sd.wellRead_of_received` — what is known of a received message.
* `Vsomeip.Sd.EventgroupentryImpl.comparedExactly_iff` — when a comparison is exact.
-/

namespace Vsomeip.Sd

open Checked Parse

/-! ## Endpoints -/

/-- The endpoint in an IPv4 or IPv6 endpoint option. -/
structure IpEndpoint where
  address : List UInt8
  port : UInt16
  protocol : LayerFourProtocol
deriving DecidableEq

/-- The endpoint of an IP option. -/
def IpOptionImpl.endpoint {n : ℕ} (o : IpOptionImpl n) : IpEndpoint :=
  ⟨o.address.toList, o.port, o.protocol⟩

/-- The endpoint of an option, if it is an IPv4 or IPv6 endpoint option. -/
def SdOption.endpoint? : SdOption → Option IpEndpoint
  | .ipv4 o => if o.type = .ip4Endpoint then some o.endpoint else none
  | .ipv6 o => if o.type = .ip6Endpoint then some o.endpoint else none
  | _ => none

/-- An IP option has the length of its class. -/
def SdOption.Sized : SdOption → Prop
  | .ipv4 o => o.length = ipv4OptionLength
  | .ipv6 o => o.length = ipv6OptionLength
  | _ => True

namespace EventgroupentryImpl

/-- The option indices of an entry, those of its first run in front. -/
def optionIndices (e : EventgroupentryImpl) : List UInt8 := e.options1 ++ e.options2

/-- The options of a message at some indices. -/
def optionsAt (options : List SdOption) (run : List UInt8) : List SdOption :=
  run.filterMap fun i => options[i.toNat]?

/-- The endpoints that an entry refers to. -/
def endpoints (e : EventgroupentryImpl) (options : List SdOption) : List IpEndpoint :=
  (optionsAt options e.optionIndices).filterMap SdOption.endpoint?

/-- An entry refers to one option at least, and to IPv4 and IPv6 endpoint options of the message
only. -/
structure RefersToEndpoints (e : EventgroupentryImpl) (options : List SdOption) : Prop where
  some_option : e.numOptions ≠ 0
  inside : ∀ i ∈ e.optionIndices, i.toNat < options.length
  endpoint : ∀ o ∈ optionsAt options e.optionIndices, o.endpoint?.isSome

/-- Two entries match exactly if the first one stops what the second one subscribes to, and both refer to
the same endpoints, each as often. -/
def ComparedExactly (e other : EventgroupentryImpl) (options : List SdOption) : Prop :=
  ∃ matching, e.isMatchingSubscribe other options = .ok matching ∧
    (matching = true ↔ e.stops other ∧ (e.endpoints options).Perm (other.endpoints options))

/-- The number of options in the runs of an entry is the one in its counts, and the runs follow from
indices and counts. -/
structure Framed (e : EventgroupentryImpl) : Prop where
  options1 : e.options1 = EntryImpl.readRun e.index1 e.numOptions1
  options2 : e.options2 = EntryImpl.readRun e.index2 e.numOptions2

end EventgroupentryImpl

/-! ## Received messages -/

/-- An eventgroup entry that is read has the indices that its counts say. -/
lemma yields_eventgroupentry : Yields EventgroupentryImpl.Framed EventgroupentryImpl.deserialize := by
  have hbase : Yields (fun e : EntryImpl => e.options1 = EntryImpl.readRun e.index1 e.numOptions1 ∧
      e.options2 = EntryImpl.readRun e.index2 e.numOptions2) EntryImpl.deserialize :=
    .then_of fun _ => .then_of fun _ => .then_of fun _ => .then_of fun _ => .then_of fun _ =>
      .then_of fun _ => .pure ⟨rfl, rfl⟩
  refine hbase.bind fun _ hruns => .then_of fun _ => .then_of fun _ => .then_of fun _ =>
    .then_of fun _ => ?_
  exact .ite (fun _ => .fail) fun _ => .then_of fun _ => .pure ⟨hruns.1, hruns.2⟩

/-- An entry that is an eventgroup entry is framed. -/
def Entry.Framed : Entry → Prop
  | .service _ => True
  | .eventgroup e => e.Framed

/-- An entry that is read has the indices that its counts say. -/
lemma yields_deserializeEntry : Yields Entry.Framed MessageImpl.deserializeEntry := by
  refine .then_of fun type => .ite (fun _ => ?_) fun _ => .ite (fun _ => ?_) fun _ => .fail
  · exact .then_of fun _ => .pure True.intro
  · exact yields_eventgroupentry.bind fun _ hframed => .pure hframed

/-- An address option has the length that was read. -/
lemma yields_ipOption {n : ℕ} {optionLength : UInt16} :
    Yields (fun o => o.length = optionLength) (IpOptionImpl.deserialize n optionLength) := by
  refine .then_of fun base => .then_of fun _ => .then_of fun _ => .then_of fun _ => .then_of fun _ => ?_
  cases base with
  | none => exact .fail
  | some base => exact .ite (fun hlength => .pure hlength) fun _ => .fail

/-- An option that is read has the length of its type. -/
lemma yields_deserializeOption : Yields SdOption.Sized MessageImpl.deserializeOption := by
  refine .then_of fun type => ?_
  cases OptionType.ofByte type with
  | ip4Endpoint | ip4Multicast => exact yields_ipOption.bind fun _ hlength => .pure hlength
  | ip6Endpoint | ip6Multicast => exact yields_ipOption.bind fun _ hlength => .pure hlength
  | configuration | loadBalancing | protection | unknown => exact .then_of fun _ => .pure True.intro

/-- A message whose entries are framed and whose IP options have the length of their class. -/
structure MessageImpl.WellRead (m : MessageImpl) : Prop where
  entries : ∀ e ∈ m.entries, e.Framed
  options : ∀ o ∈ m.options, o.Sized

namespace MessageImpl

/-- An entry that is added keeps the message well read. -/
lemma WellRead.addEntry {m : MessageImpl} {e : Entry} (h : m.WellRead) (he : e.Framed) :
    (m.addEntry e).WellRead := by
  have hentries : ∀ f ∈ m.entries ++ [e], f.Framed := by
    intro f hf
    obtain hf | hf := List.mem_append.mp hf
    · exact h.entries f hf
    · rwa [List.mem_singleton.mp hf]
  rw [MessageImpl.addEntry]
  split_ifs
  · exact h
  · exact ⟨hentries, h.options⟩
  · exact ⟨hentries, h.options⟩
  · exact ⟨hentries, h.options⟩

/-- The loop over the entries keeps the message well read. -/
lemma yields_entriesLoop : ∀ (fuel : ℕ) {m : MessageImpl}, m.WellRead →
    Yields WellRead (entriesLoop fuel m)
  | 0, _, h => .pure h
  | fuel + 1, _, h => .then_of fun _ => .ite (fun _ => .pure h) fun _ =>
    yields_deserializeEntry.bind fun _ he => yields_entriesLoop fuel (h.addEntry he)

/-- The start of a message is well read. -/
lemma yields_deserializePrelude : Yields (fun p => p.1.WellRead) deserializePrelude :=
  .then_of fun _ => .then_of fun _ => .then_of fun _ => .then_of fun _ =>
    .pure ⟨List.forall_mem_nil _, List.forall_mem_nil _⟩

/-- The entries of a message are well read. -/
lemma yields_deserializeEntries :
    Yields (fun m => ∀ m', m = some m' → m'.WellRead) deserializeEntries := by
  refine yields_deserializePrelude.attempt.bind fun start hstart => .then_of fun _ => .then_of fun _ => ?_
  refine Yields.bind (P := fun m => ∀ m', m = some m' → m'.WellRead) (.attempt ?_) fun m hm =>
    .then_of fun _ => .pure hm
  cases start with
  | none => exact .fail
  | some start => exact yields_entriesLoop _ (hstart start rfl)

/-- The loop over the options reads options of their lengths. -/
lemma yields_optionsLoop : ∀ (fuel : ℕ) {options : List SdOption}, (∀ o ∈ options, o.Sized) →
    Yields (fun options => ∀ o ∈ options, o.Sized) (optionsLoop fuel options)
  | 0, _, h => .pure h
  | fuel + 1, options, h => by
    refine .then_of fun d => .ite (fun _ => .pure h) fun _ => ?_
    refine yields_deserializeOption.attempt.bind fun o ho => ?_
    cases o with
    | none => exact .pure h
    | some o =>
      refine yields_optionsLoop fuel fun o' ho' => ?_
      obtain ho' | ho' := List.mem_append.mp ho'
      · exact h o' ho'
      · rw [List.mem_singleton.mp ho']
        exact ho o rfl

/-- A message that is read is well read. -/
lemma yields_deserialize : Yields WellRead deserialize := by
  refine yields_deserializeEntries.bind fun m hm => .then_of fun d => .ite (fun _ => ?_) fun _ => ?_
  · cases m with
    | none => exact .fail
    | some m => exact .pure (hm m rfl)
  · refine .then_of fun length => .then_of fun _ => .then_of fun d => ?_
    refine (yields_optionsLoop _ (List.forall_mem_nil _)).bind fun options hoptions => ?_
    cases m with
    | none => exact .fail
    | some m =>
      cases length with
      | none => exact .fail
      | some length => exact .pure ⟨(hm m rfl).entries, hoptions⟩

end MessageImpl

/-- What is known of a received message. -/
lemma wellRead_of_received {data : List UInt8} {stray : ℕ → UInt8} {m : MessageImpl}
    (h : (deserializeSdMessage data stray).1 = some m) : m.WellRead :=
  MessageImpl.yields_deserialize _ m h

namespace EventgroupentryImpl

variable {e other : EventgroupentryImpl} {options : List SdOption}

/-- An entry has as many indices as its counts say. -/
lemma Framed.length_optionIndices (h : e.Framed) : e.optionIndices.length = e.numOptions := by
  simp [optionIndices, h.options1, h.options2, EntryImpl.readRun, numOptions]

/-! ## What is compared -/

/-- The options of two runs, one behind the other. -/
lemma optionsAt_append (run run' : List UInt8) :
    optionsAt options (run ++ run') = optionsAt options run ++ optionsAt options run' :=
  List.filterMap_append

/-- Options in range are found. -/
lemma mapM_optionAt : ∀ {run : List UInt8}, (∀ i ∈ run, i.toNat < options.length) →
    run.mapM (optionAt options) = (.ok (optionsAt options run) : Except OutOfRange (List SdOption))
  | [], _ => rfl
  | i :: run, h => by
    obtain ⟨o, ho⟩ : ∃ o, options[i.toNat]? = some o :=
      ⟨_, List.getElem?_eq_getElem (h i List.mem_cons_self)⟩
    have ih := mapM_optionAt fun j hj => h j (List.mem_cons_of_mem i hj)
    have hat : optionsAt options (i :: run) = o :: optionsAt options run :=
      List.filterMap_cons_some ho
    have hoption : optionAt options i = .ok o := by rw [optionAt, ho]
    rw [List.mapM_cons, ih, hoption, hat]
    rfl

/-- An option with an endpoint is of one of two classes, with the type of that class. -/
lemma cases_of_endpoint? {o : SdOption} (h : o.endpoint?.isSome) :
    (∃ o', o = .ipv4 o' ∧ o'.type = .ip4Endpoint) ∨ ∃ o', o = .ipv6 o' ∧ o'.type = .ip6Endpoint := by
  cases o with
  | ipv4 o =>
    by_cases htype : o.type = .ip4Endpoint
    · exact .inl ⟨o, rfl, htype⟩
    · simp [SdOption.endpoint?, htype] at h
  | ipv6 o =>
    by_cases htype : o.type = .ip6Endpoint
    · exact .inr ⟨o, rfl, htype⟩
    · simp [SdOption.endpoint?, htype] at h
  | _ => simp [SdOption.endpoint?] at h

/-- A run of endpoint options is read out. -/
lemma endpointOptions_eq {run : List UInt8} (hinside : ∀ i ∈ run, i.toNat < options.length)
    (hendpoint : ∀ o ∈ optionsAt options run, o.endpoint?.isSome) :
    endpointOptions options run = .ok (optionsAt options run) := by
  rw [endpointOptions, mapM_optionAt hinside]
  refine congrArg Except.ok (List.filter_eq_self.mpr fun o ho => ?_)
  obtain ⟨o, rfl, htype⟩ | ⟨o, rfl, htype⟩ := cases_of_endpoint? (hendpoint o ho)
  · simp [SdOption.base, htype]
  · simp [SdOption.base, htype]

/-- Address options of one type and length are the same endpoint if their addresses are. -/
lemma sameEndpoint_iff_of_ip {n : ℕ} {c o : IpOptionImpl n} (htype : c.type = o.type)
    (hlength : c.length = o.length) : c.sameEndpoint o = true ↔ c.endpoint = o.endpoint := by
  have haddress : c.address.toList = o.address.toList ↔ c.address = o.address := Subtype.ext_iff.symm
  simp only [IpOptionImpl.sameEndpoint, htype, hlength, beq_self_eq_true, Bool.true_and,
    Bool.and_eq_true, beq_iff_eq, IpOptionImpl.endpoint, IpEndpoint.mk.injEq, haddress]
  tauto

/-- An IPv4 and an IPv6 address are not of the same length. -/
lemma endpoint_ne {c : IpOptionImpl 4} {o : IpOptionImpl 16} : c.endpoint ≠ o.endpoint := by
  intro h
  have hlength := congrArg (fun endpoint => endpoint.address.length) h
  simp [IpOptionImpl.endpoint] at hlength

/-- Two endpoint options of a received message are the same exactly if their endpoints are. -/
lemma sameEndpoint_iff {c o : SdOption} (hc : c.Sized ∧ c.endpoint?.isSome)
    (ho : o.Sized ∧ o.endpoint?.isSome) : c.sameEndpoint o = true ↔ c.endpoint? = o.endpoint? := by
  obtain ⟨hc, hcs⟩ := hc
  obtain ⟨ho, hos⟩ := ho
  obtain ⟨c, rfl, hctype⟩ | ⟨c, rfl, hctype⟩ := cases_of_endpoint? hcs <;>
    obtain ⟨o, rfl, hotype⟩ | ⟨o, rfl, hotype⟩ := cases_of_endpoint? hos <;>
    simp only [SdOption.endpoint?, SdOption.sameEndpoint, hctype, hotype, if_true, Option.some.injEq]
  · exact sameEndpoint_iff_of_ip (hctype.trans hotype.symm) (hc.trans ho.symm)
  · exact iff_of_false Bool.false_ne_true endpoint_ne
  · exact iff_of_false Bool.false_ne_true endpoint_ne.symm
  · exact sameEndpoint_iff_of_ip (hctype.trans hotype.symm) (hc.trans ho.symm)

/-- Every endpoint of the first entry is found among those of the second one. -/
lemma all_any_sameEndpoint_iff {cs os : List SdOption} (hcs : ∀ c ∈ cs, c.Sized ∧ c.endpoint?.isSome)
    (hos : ∀ o ∈ os, o.Sized ∧ o.endpoint?.isSome) :
    (cs.all fun c => os.any fun o => c.sameEndpoint o) = true ↔
      cs.filterMap SdOption.endpoint? ⊆ os.filterMap SdOption.endpoint? := by
  simp only [List.all_eq_true, List.any_eq_true, List.subset_def, List.mem_filterMap]
  constructor
  · rintro h endpoint ⟨c, hc, hendpoint⟩
    obtain ⟨o, ho, hsame⟩ := h c hc
    exact ⟨o, ho, ((sameEndpoint_iff (hcs c hc) (hos o ho)).mp hsame).symm.trans hendpoint⟩
  · intro h c hc
    obtain ⟨endpoint, hendpoint⟩ := Option.isSome_iff_exists.mp (hcs c hc).2
    obtain ⟨o, ho, hsame⟩ := h ⟨c, hc, hendpoint⟩
    exact ⟨o, ho, (sameEndpoint_iff (hcs c hc) (hos o ho)).mpr (hendpoint.trans hsame.symm)⟩

/-- An entry that refers to endpoints refers to as many as its counts say. -/
lemma RefersToEndpoints.length_optionsAt (h : e.RefersToEndpoints options) (hframed : e.Framed) :
    (optionsAt options e.optionIndices).length = e.numOptions := by
  rw [← hframed.length_optionIndices]
  exact List.filterMap_length_eq_length.mpr fun i hi => by
    rw [List.getElem?_eq_getElem (h.inside i hi), Option.isSome_some]

/-- There are as many endpoints as options. -/
lemma RefersToEndpoints.length_endpoints (h : e.RefersToEndpoints options) (hframed : e.Framed) :
    (e.endpoints options).length = e.numOptions := by
  rw [endpoints, List.filterMap_length_eq_length.mpr h.endpoint, h.length_optionsAt hframed]

/-- Both runs of an entry are read out. -/
lemma RefersToEndpoints.endpointOptions_eq (h : e.RefersToEndpoints options) :
    endpointOptions options e.options1 = .ok (optionsAt options e.options1) ∧
      endpointOptions options e.options2 = .ok (optionsAt options e.options2) := by
  have hendpoint := h.endpoint
  rw [optionIndices, optionsAt_append] at hendpoint
  constructor
  · exact EventgroupentryImpl.endpointOptions_eq (fun i hi => h.inside i (List.mem_append_left _ hi))
      fun o ho => hendpoint o (List.mem_append_left _ ho)
  · exact EventgroupentryImpl.endpointOptions_eq (fun i hi => h.inside i (List.mem_append_right _ hi))
      fun o ho => hendpoint o (List.mem_append_right _ ho)

/-- The comparison of two entries that agree in everything but their option runs. -/
lemma isMatchingSubscribe_of_stops (hstops : e.stops other) (hruns : ¬ e.sameRuns other)
    (hef : e.Framed) (hotherf : other.Framed) (he : e.RefersToEndpoints options)
    (hother : other.RefersToEndpoints options) :
    e.isMatchingSubscribe other options = .ok (decide (e.numOptions = other.numOptions) &&
      (optionsAt options e.optionIndices).all fun c =>
        (optionsAt options other.optionIndices).any fun o => c.sameEndpoint o) := by
  rw [isMatchingSubscribe, if_neg (by simp [hruns]), if_pos hstops]
  by_cases hnum : e.numOptions = other.numOptions
  · have hpos : ¬ ((optionsAt options e.optionIndices).length = 0 ∨
        (optionsAt options other.optionIndices).length = 0) := by
      rw [he.length_optionsAt hef, hother.length_optionsAt hotherf, not_or]
      exact ⟨he.some_option, hother.some_option⟩
    rw [if_neg (by simp [hnum, hother.some_option]), he.endpointOptions_eq.1,
      hother.endpointOptions_eq.1, he.endpointOptions_eq.2, hother.endpointOptions_eq.2,
      decide_eq_true hnum, Bool.true_and]
    rw [optionIndices, optionsAt_append, optionIndices, optionsAt_append] at hpos ⊢
    exact if_neg hpos
  · rw [if_pos (.inl hnum), decide_eq_false hnum, Bool.false_and]
    rfl

/-- Entries with the same option runs refer to the same endpoints. -/
lemma endpoints_of_sameRuns (he : e.Framed) (hother : other.Framed) (h : e.sameRuns other) :
    e.endpoints options = other.endpoints options := by
  simp only [sameRuns, Bool.and_eq_true, beq_iff_eq] at h
  obtain ⟨⟨⟨hindex1, hindex2⟩, hnum1⟩, hnum2⟩ := h
  rw [endpoints, endpoints, optionIndices, optionIndices, he.options1, he.options2, hother.options1,
    hother.options2, hindex1, hindex2, hnum1, hnum2]

/-- No endpoint stands in the first of two entries more often than in the second one, if the first one
stops what the second one subscribes to, with as many options, and all its endpoints are in the second
one. -/
def Balanced (e other : EventgroupentryImpl) (options : List SdOption) : Prop :=
  e.stops other → e.numOptions = other.numOptions → e.endpoints options ⊆ other.endpoints options →
    ∀ endpoint ∈ e.endpoints options,
      (e.endpoints options).count endpoint ≤ (other.endpoints options).count endpoint

/-- Of two lists of the same length the first one has the elements of the second one if it has none more
often. -/
lemma perm_iff_count_le {α : Type} [DecidableEq α] {l l' : List α} (hlength : l.length = l'.length) :
    l.Perm l' ↔ ∀ x ∈ l, l.count x ≤ l'.count x := by
  rw [← List.subperm_ext_iff]
  exact ⟨List.Perm.subperm, fun h => h.perm_of_length_le hlength.ge⟩

/-- Every endpoint of an entry of a received message is looked for in the other entry. -/
lemma all_any_iff_subset (hread : ∀ o ∈ options, o.Sized) (he : e.RefersToEndpoints options)
    (hother : other.RefersToEndpoints options) :
    ((optionsAt options e.optionIndices).all fun c =>
        (optionsAt options other.optionIndices).any fun o => c.sameEndpoint o) = true ↔
      e.endpoints options ⊆ other.endpoints options := by
  have hsized {e : EventgroupentryImpl} (he : e.RefersToEndpoints options) :
      ∀ o ∈ optionsAt options e.optionIndices, o.Sized ∧ o.endpoint?.isSome := by
    intro o ho
    obtain ⟨i, -, hi⟩ := List.mem_filterMap.mp ho
    exact ⟨hread o (List.mem_of_getElem? hi), he.endpoint o ho⟩
  exact all_any_sameEndpoint_iff (hsized he) (hsized hother)

/-- **A stop-subscribe is compared exactly** with a subscribe of the same message if and only if no
endpoint stands in it more often than in the subscribe, given that the comparison gets so far as to find
each of them there. -/
theorem comparedExactly_iff {data : List UInt8} {stray : ℕ → UInt8} {m : MessageImpl}
    {e other : EventgroupentryImpl} (hm : (deserializeSdMessage data stray).1 = some m)
    (hentry : .eventgroup e ∈ m.entries) (hnext : .eventgroup other ∈ m.entries)
    (he : e.RefersToEndpoints m.options) (hother : other.RefersToEndpoints m.options) :
    e.ComparedExactly other m.options ↔ e.Balanced other m.options := by
  have hread := wellRead_of_received hm
  have hef : e.Framed := hread.entries _ hentry
  have hotherf : other.Framed := hread.entries _ hnext
  by_cases hstops : e.stops other
  · rw [ComparedExactly, Balanced]
    simp only [hstops, true_and, forall_const]
    by_cases hruns : e.sameRuns other
    · have hsame : e.endpoints m.options = other.endpoints m.options :=
        endpoints_of_sameRuns hef hotherf hruns
      have htrue : e.isMatchingSubscribe other m.options = .ok true :=
        if_pos (by rw [hstops, hruns]; rfl)
      rw [hsame, htrue]
      exact iff_of_true ⟨true, rfl, by simp⟩ fun _ _ _ _ => le_rfl
    · rw [isMatchingSubscribe_of_stops hstops hruns hef hotherf he hother]
      simp only [Except.ok.injEq, exists_eq_left', Bool.and_eq_true, decide_eq_true_eq,
        all_any_iff_subset hread.options he hother]
      have hlength : (e.endpoints m.options).length = (other.endpoints m.options).length ↔
          e.numOptions = other.numOptions := by
        rw [he.length_endpoints hef, hother.length_endpoints hotherf]
      constructor
      · intro h hnum hsubset
        exact (perm_iff_count_le (hlength.mpr hnum)).mp (h.mp ⟨hnum, hsubset⟩)
      · refine fun h => ⟨fun ⟨hnum, hsubset⟩ => ?_, fun h => ⟨hlength.mp h.length_eq, h.subset⟩⟩
        exact (perm_iff_count_le (hlength.mpr hnum)).mpr (h hnum hsubset)
  · have hfalse : e.isMatchingSubscribe other m.options = .ok false := by
      rw [isMatchingSubscribe, if_neg (by simp [hstops]), if_neg hstops]
      rfl
    exact iff_of_true ⟨false, hfalse, by simp [hstops]⟩ fun h => absurd h hstops

/-! ### An endpoint that is referred to twice -/

/-- A message with a stop-subscribe for the first two options and a subscribe for the second and the
third one, which are the endpoints 127.0.0.1:30509, the same again, and 127.0.0.1:30510. -/
def doubledData : List UInt8 :=
  [0xFF, 0xFF, 0x81, 0x00, 0x00, 0x00, 0x00, 0x58, 0x00, 0x00, 0x00, 0x01, 0x01, 0x01, 0x02, 0x00,
    0xC0, 0x00, 0x00, 0x00, 0x00, 0x00, 0x00, 0x20,
    0x06, 0x00, 0x00, 0x20, 0x12, 0x34, 0x00, 0x01, 0x01, 0x00, 0x00, 0x00, 0x00, 0x00, 0x44, 0x65,
    0x06, 0x01, 0x00, 0x20, 0x12, 0x34, 0x00, 0x01, 0x01, 0x00, 0x00, 0x03, 0x00, 0x00, 0x44, 0x65,
    0x00, 0x00, 0x00, 0x24,
    0x00, 0x09, 0x04, 0x00, 0x7F, 0x00, 0x00, 0x01, 0x00, 0x11, 0x77, 0x2D,
    0x00, 0x09, 0x04, 0x00, 0x7F, 0x00, 0x00, 0x01, 0x00, 0x11, 0x77, 0x2D,
    0x00, 0x09, 0x04, 0x00, 0x7F, 0x00, 0x00, 0x01, 0x00, 0x11, 0x77, 0x2E]

/-- The two entries of the message. -/
def doubledEntry (ttl : UInt32) (index : UInt8) : EventgroupentryImpl :=
  { type := .subscribeEventgroup, service := 0x1234, instance_ := 1, majorVersion := 1, ttl,
    options1 := EntryImpl.readRun index 2, options2 := [], numOptions1 := 2, numOptions2 := 0,
    index1 := index, index2 := 0, eventgroup := 0x4465, reserved := 0, counter := 0 }

/-- The options of the message. -/
def doubledOption (port : UInt16) : SdOption :=
  .ipv4 { length := 9, type := .ip4Endpoint, address := ⟨[0x7F, 0, 0, 1], rfl⟩, protocol := .udp, port }

/-- The message that is received. -/
def doubledMessage : MessageImpl :=
  { header := { MessageImpl.init.header with
      length := 0x58, session := 1, interfaceVersion := 1, type := 2, code := 0 }
    flags := 0xC0, optionsLength := 0x24,
    entries := [.eventgroup (doubledEntry 0 0), .eventgroup (doubledEntry 3 1)],
    options := [doubledOption 30509, doubledOption 30509, doubledOption 30510],
    numberRequiredAcks := 2 }

/-- The message of the example is read from its bytes. -/
lemma received_doubledMessage :
    (deserializeSdMessage doubledData fun _ => 0).1 = some doubledMessage := by decide +kernel

/-- The entries of the example refer to endpoints. -/
lemma refersToEndpoints_doubled :
    (doubledEntry 0 0).RefersToEndpoints doubledMessage.options ∧
      (doubledEntry 3 1).RefersToEndpoints doubledMessage.options :=
  ⟨⟨by decide, by decide +kernel, by decide⟩, ⟨by decide, by decide +kernel, by decide⟩⟩

/-- The comparison of the two entries of the message. -/
theorem comparedExactly_iff_doubled :
    (doubledEntry 0 0).ComparedExactly (doubledEntry 3 1) doubledMessage.options ↔
      (doubledEntry 0 0).Balanced (doubledEntry 3 1) doubledMessage.options :=
  comparedExactly_iff received_doubledMessage List.mem_cons_self
    (List.mem_cons_of_mem _ List.mem_cons_self) refersToEndpoints_doubled.1
    refersToEndpoints_doubled.2

/-- **Two entries of a received message that match by mistake**: the first one refers to one endpoint
twice, the second one to it and to another one. -/
theorem not_comparedExactly_doubled : ¬ ∀ (data : List UInt8) (stray : ℕ → UInt8) (m : MessageImpl)
    (e other : EventgroupentryImpl), (deserializeSdMessage data stray).1 = some m →
    .eventgroup e ∈ m.entries → .eventgroup other ∈ m.entries →
    e.RefersToEndpoints m.options → other.RefersToEndpoints m.options →
    e.ComparedExactly other m.options := by
  intro h
  obtain ⟨matching, hmatching, hexact⟩ := h _ _ _ (doubledEntry 0 0) (doubledEntry 3 1)
    received_doubledMessage List.mem_cons_self (List.mem_cons_of_mem _ List.mem_cons_self)
    refersToEndpoints_doubled.1 refersToEndpoints_doubled.2
  have htrue : (doubledEntry 0 0).isMatchingSubscribe (doubledEntry 3 1) doubledMessage.options =
    .ok true := by decide
  have hperm : ¬ ((doubledEntry 0 0).endpoints doubledMessage.options).Perm
    ((doubledEntry 3 1).endpoints doubledMessage.options) := by decide
  rw [htrue, Except.ok.injEq] at hmatching
  exact hperm (hexact.mp hmatching.symm).2

end EventgroupentryImpl

end Vsomeip.Sd
