import Vsomeip.Lib.Checked
import Vsomeip.ServiceDiscovery.Message

set_option relaxedAutoImplicit false
set_option autoImplicit false

/-!
# A stop-subscribe in front of a subscribe

`service_discovery_impl::on_message` compares every entry that stops a subscription with the entry right
behind it, and treats the two as one if they match. If they are alike but for their option runs,
`eventgroupentry_impl::is_matching_subscribe` looks their options up, before any of the two entries is
processed. `process_serviceentry` and `process_eventgroupentry` look at the number of options before they
take one; here nobody does.

An index that no option has is the only thing that can go wrong, and it goes wrong exactly for the pairs
of neighbours that get that far.

## Main definitions

* `Vsomeip.Sd.EventgroupentryImpl.isMatchingSubscribe`, `Vsomeip.Sd.checkStopSubscribeSubscribe`,
  `Vsomeip.Sd.checkEntries` — the comparison, with every option index checked.
* `Vsomeip.Sd.EventgroupentryImpl.LooksUp` — two entries that get as far as their options.
* `Vsomeip.Sd.PairsInside` — the option indices of all such neighbours are in range.

## Main results

* `Vsomeip.Sd.EventgroupentryImpl.fine_isMatchingSubscribe_iff` — when a pair is safe.
* `Vsomeip.Sd.fine_checkEntries_iff` — when a message is safe.
-/

namespace Vsomeip.Sd

open Checked

/-- An access to the vector of options at an index that is not below its size. -/
inductive OutOfRange
  | option
deriving DecidableEq, Repr

/-- `_options[option_index]`. -/
def optionAt (options : List SdOption) (optionIndex : UInt8) : Except OutOfRange SdOption :=
  match options[optionIndex.toNat]? with
  | some o => .ok o
  | none => .error .option

/-- The options of a run that are endpoint options. -/
def endpointOptions (options : List SdOption) (run : List UInt8) :
    Except OutOfRange (List SdOption) := do
  let os ← run.mapM (optionAt options)
  pure (os.filter fun o => o.base.type == .ip4Endpoint || o.base.type == .ip6Endpoint)

/-- `ip_option_impl::operator==` and the comparison of the addresses of two endpoint options. -/
def IpOptionImpl.sameEndpoint {n : ℕ} (c o : IpOptionImpl n) : Bool :=
  c.type == o.type && c.length == o.length && c.protocol == o.protocol && c.port == o.port &&
    c.address == o.address

/-- Two endpoint options are the same. Options of different classes have different types. -/
def SdOption.sameEndpoint : SdOption → SdOption → Bool
  | .ipv4 c, .ipv4 o => c.sameEndpoint o
  | .ipv6 c, .ipv6 o => c.sameEndpoint o
  | _, _ => false

namespace EventgroupentryImpl

/-- The entry stops what the other one subscribes to, whatever options they refer to. -/
def stops (e other : EventgroupentryImpl) : Bool :=
  e.ttl == 0 && other.ttl > 0 && e.service == other.service && e.instance_ == other.instance_ &&
    e.eventgroup == other.eventgroup && e.majorVersion == other.majorVersion &&
    e.counter == other.counter

/-- The two entries have the same option runs. -/
def sameRuns (e other : EventgroupentryImpl) : Bool :=
  e.index1 == other.index1 && e.index2 == other.index2 && e.numOptions1 == other.numOptions1 &&
    e.numOptions2 == other.numOptions2

/-- The number of options in both runs. -/
def numOptions (e : EventgroupentryImpl) : ℕ := e.numOptions1.toNat + e.numOptions2.toNat

/-- `eventgroupentry_impl::is_matching_subscribe`. -/
def isMatchingSubscribe (e other : EventgroupentryImpl) (options : List SdOption) :
    Except OutOfRange Bool :=
  if e.stops other && e.sameRuns other then pure true
  else if e.stops other then
    if e.numOptions ≠ other.numOptions ∨ e.numOptions = 0 then pure false
    else do
      let current1 ← endpointOptions options e.options1
      let other1 ← endpointOptions options other.options1
      let current2 ← endpointOptions options e.options2
      let other2 ← endpointOptions options other.options2
      let optionsCurrent := current1 ++ current2
      let optionsOther := other1 ++ other2
      if optionsCurrent.length = 0 ∨ optionsOther.length = 0 then pure false
      else pure (optionsCurrent.all fun c => optionsOther.any fun o => c.sameEndpoint o)
  else pure false

end EventgroupentryImpl

/-- `service_discovery_impl::check_stop_subscribe_subscribe` for an entry and those behind it. The
entries of type `SUBSCRIBE_EVENTGROUP`, which is `STOP_SUBSCRIBE_EVENTGROUP` too, are eventgroup
entries. -/
def checkStopSubscribeSubscribe (options : List SdOption) (iter : Entry) :
    List Entry → Except OutOfRange Bool
  | [] => pure false
  | next :: _ =>
    if iter.base.ttl > 0 ∨ iter.base.type ≠ .subscribeEventgroup ∨
        next.base.type ≠ .subscribeEventgroup then pure false
    else match iter, next with
      | .eventgroup e, .eventgroup other => e.isMatchingSubscribe other options
      | _, _ => pure false

/-- The comparisons in the loop of `service_discovery_impl::on_message` over the entries: what
`is_stop_subscribe_subscribe` is for each of the eventgroup entries. -/
def checkEntries (options : List SdOption) : List Entry → Except OutOfRange (List Bool)
  | [] => pure []
  | iter :: rest =>
    if iter.base.type.isService then checkEntries options rest
    else do
      let isStopSubscribeSubscribe ← checkStopSubscribeSubscribe options iter rest
      let flags ← checkEntries options rest
      pure (isStopSubscribeSubscribe :: flags)

/-! ## Pairs of entries -/

/-- An option can be read if its index is inside the list. -/
lemma fine_optionAt_iff {options : List SdOption} {i : UInt8} :
    Fine (optionAt options i) ↔ i.toNat < options.length := by
  rw [optionAt]
  split
  · rename_i o h
    exact iff_of_true (fine_ok o) (List.getElem?_eq_some_iff.mp h).1
  · rename_i h
    exact iff_of_false (not_fine_error _) (Nat.not_lt.mpr (List.getElem?_eq_none_iff.mp h))

/-- The options of a run can be read if all indices are inside the list. -/
lemma fine_endpointOptions_iff {options : List SdOption} {run : List UInt8} :
    Fine (endpointOptions options run) ↔ ∀ i ∈ run, i.toNat < options.length := by
  rw [endpointOptions, fine_bind_pure_iff, fine_mapM_iff]
  exact forall₂_congr fun _ _ => fine_optionAt_iff

/-- The indices of both option runs are below a number of options. -/
def EntryImpl.RunsInside (e : EntryImpl) (n : ℕ) : Prop :=
  (∀ i ∈ e.options1, i.toNat < n) ∧ ∀ i ∈ e.options2, i.toNat < n

namespace EventgroupentryImpl

/-- Two entries whose options are looked up: they agree in everything but their option runs, and these
have the same number of options, but not none. -/
structure LooksUp (e other : EventgroupentryImpl) : Prop where
  stops : e.stops other
  runs : ¬ e.sameRuns other
  numOptions : e.numOptions = other.numOptions
  pos : e.numOptions ≠ 0

/-- The first of two entries whose options are looked up stops a subscription. -/
lemma LooksUp.ttl {e other : EventgroupentryImpl} (h : e.LooksUp other) : e.ttl = 0 := by
  have hstops := h.stops
  simp only [EventgroupentryImpl.stops, Bool.and_eq_true, beq_iff_eq] at hstops
  exact hstops.1.1.1.1.1.1

/-- **A pair is compared safely** exactly if its options are not looked up or all there. -/
theorem fine_isMatchingSubscribe_iff {e other : EventgroupentryImpl} {options : List SdOption} :
    Fine (e.isMatchingSubscribe other options) ↔
      (e.LooksUp other →
        e.RunsInside options.length ∧ other.RunsInside options.length) := by
  rw [isMatchingSubscribe]
  split_ifs with hsame hstops hnum
  · rw [Bool.and_eq_true] at hsame
    exact iff_of_true (fine_pure _) fun h => absurd hsame.2 h.runs
  · refine iff_of_true (fine_pure _) fun h => ?_
    obtain hne | hzero := hnum
    · exact absurd h.numOptions hne
    · exact absurd hzero h.pos
  · have hlooks : e.LooksUp other := by
      rw [Bool.and_eq_true, not_and] at hsame
      rw [not_or, not_not] at hnum
      exact ⟨hstops, hsame hstops, hnum.1, hnum.2⟩
    rw [fine_bind_iff_and fun _ => fine_bind_iff_and fun _ => fine_bind_iff_and fun _ =>
      fine_bind_iff_and fun _ => iff_true_intro ?_]
    · simp only [fine_endpointOptions_iff, forall_prop_of_true hlooks, EntryImpl.RunsInside]
      tauto
    · dsimp only
      split_ifs <;> exact fine_pure _
  · exact iff_of_true (fine_pure _) fun h => absurd h.stops hstops

end EventgroupentryImpl

/-! ## Messages -/

/-- If the options of two neighbours of type `SUBSCRIBE_EVENTGROUP` are looked up, the options
exist. -/
def PairInside (n : ℕ) (e other : EventgroupentryImpl) : Prop :=
  e.type = .subscribeEventgroup → other.type = .subscribeEventgroup → e.LooksUp other →
    e.RunsInside n ∧ other.RunsInside n

/-- For all neighbours in a message whose options are looked up, the options exist. -/
def PairsInside (entries : List Entry) (n : ℕ) : Prop :=
  ∀ e other : EventgroupentryImpl, [.eventgroup e, .eventgroup other] <:+: entries →
    PairInside n e other

section Entries

variable {options : List SdOption} {iter : Entry} {rest : List Entry} {n : ℕ}

/-- The pairs of a list of entries, from the first one on. -/
lemma pairsInside_cons_iff : PairsInside (iter :: rest) n ↔
    (∀ e other : EventgroupentryImpl, [.eventgroup e, .eventgroup other] <+: iter :: rest →
      PairInside n e other) ∧ PairsInside rest n := by
  simp only [PairsInside, List.infix_cons_iff, or_imp, forall_and]

/-- The first two entries are compared safely exactly if their options exist where they are looked
up. -/
lemma fine_checkStopSubscribeSubscribe_iff :
    Fine (checkStopSubscribeSubscribe options iter rest) ↔
      ∀ e other : EventgroupentryImpl, [.eventgroup e, .eventgroup other] <+: iter :: rest →
        PairInside options.length e other := by
  cases rest with
  | nil =>
    refine iff_of_true (fine_pure _) fun e other h => ?_
    have hle := h.length_le
    simp at hle
  | cons next rest =>
    simp only [List.cons_prefix_cons, List.nil_prefix, and_true]
    cases iter with
    | service e =>
      refine iff_of_true ?_ fun _ _ h => nomatch h.1
      change Fine (if _ then pure false else pure false)
      rw [ite_self]
      exact fine_pure _
    | eventgroup e =>
      cases next with
      | service other =>
        refine iff_of_true ?_ fun _ _ h => nomatch h.2
        change Fine (if _ then pure false else pure false)
        rw [ite_self]
        exact fine_pure _
      | eventgroup other =>
        change Fine (if e.ttl > 0 ∨ e.type ≠ .subscribeEventgroup ∨ other.type ≠ .subscribeEventgroup
          then pure false else e.isMatchingSubscribe other options) ↔ _
        have hpair : (∀ e' other' : EventgroupentryImpl,
            Entry.eventgroup e' = .eventgroup e ∧ Entry.eventgroup other' = .eventgroup other →
              PairInside options.length e' other') ↔ PairInside options.length e other := by
          refine ⟨fun h => h e other ⟨rfl, rfl⟩, ?_⟩
          rintro h _ _ ⟨⟨⟩, ⟨⟩⟩
          exact h
        rw [hpair]
        split_ifs with hother
        · refine iff_of_true (fine_pure _) fun he hnext hlooks => ?_
          obtain httl | htype | htype := hother
          · rw [hlooks.ttl] at httl
            exact absurd httl (by decide)
          · exact absurd he htype
          · exact absurd hnext htype
        · rw [not_or, not_or, not_not, not_not] at hother
          rw [EventgroupentryImpl.fine_isMatchingSubscribe_iff, PairInside,
            forall_prop_of_true hother.2.1, forall_prop_of_true hother.2.2]

/-- **The entries of a message are compared safely** exactly if all neighbours whose options are
looked up have indices in range: for every list of entries and options, so for every message that is
received. -/
theorem fine_checkEntries_iff (entries : List Entry) (options : List SdOption) :
    Fine (checkEntries options entries) ↔ PairsInside entries options.length := by
  induction entries with
  | nil =>
    refine iff_of_true (fine_pure _) fun e other h => ?_
    cases List.infix_nil.mp h
  | cons iter rest ih =>
    rw [pairsInside_cons_iff, checkEntries]
    split_ifs with hservice
    · refine ih.trans (and_iff_right ?_).symm
      rintro e other h he
      obtain ⟨rfl, -⟩ := List.cons_prefix_cons.mp h
      change e.type.isService at hservice
      rw [he] at hservice
      exact absurd hservice (by decide)
    · rw [fine_bind_iff_and fun _ => fine_bind_pure_iff.trans ih, fine_checkStopSubscribeSubscribe_iff]

end Entries

/-- **A message that is received and not compared safely**: a stop-subscribe with the first option and
a subscribe with the sixth, and no option at all. -/
theorem not_fine_checkEntries_received : ¬ ∀ (data : List UInt8) (stray : ℕ → UInt8) (m : MessageImpl),
    (deserializeSdMessage data stray).1 = some m → Fine (checkEntries m.options m.entries) := by
  intro hall
  have hrun : ((deserializeSdMessage
      [0xFF, 0xFF, 0x81, 0x00, 0x00, 0x00, 0x00, 0x34, 0x00, 0x00, 0x00, 0x01, 0x01, 0x01, 0x02, 0x00,
        0xC0, 0x00, 0x00, 0x00, 0x00, 0x00, 0x00, 0x20,
        0x06, 0x00, 0x00, 0x10, 0x12, 0x34, 0x00, 0x01, 0x01, 0x00, 0x00, 0x00, 0x00, 0x00, 0x44, 0x65,
        0x06, 0x05, 0x00, 0x10, 0x12, 0x34, 0x00, 0x01, 0x01, 0x00, 0x00, 0x03, 0x00, 0x00, 0x44, 0x65,
        0x00, 0x00, 0x00, 0x00] fun _ => 0).1.map
          fun m => (checkEntries m.options m.entries).toOption) = some none := by decide +kernel
  obtain ⟨m, hm, hnone⟩ := Option.map_eq_some_iff.mp hrun
  obtain ⟨flags, hflags⟩ := hall _ _ m hm
  rw [hflags] at hnone
  cases hnone

end Vsomeip.Sd
