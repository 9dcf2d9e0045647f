import Mathlib.Data.List.DropRight
import Vsomeip.ServiceDiscovery.SubscribeAnswer

set_option relaxedAutoImplicit false
set_option autoImplicit false

/-!
# What Subscribe entries call for

The answers that a message requires are counted from the options that its Subscribe entries refer to.
Whether they are given depends on the checks of `process_eventgroupentry` and
`handle_eventgroup_subscription`: an entry that is refused gets one answer, one that is not gets an
answer for each of its endpoints, and some checks correct the number that is required.

This file says of each entry, from the message and from what the routing manager says, which check
refuses it, how many answers it gets, how many are pending, and what it adds to the required ones or
takes back. The response is sent as it should be exactly if the sums agree.

## Main definitions

* `Vsomeip.Sd.Received.refusedAt` — the first option for which an entry is refused.
* `Vsomeip.Sd.Check`, `Vsomeip.Sd.Received.refusal` — the check that refuses an entry.
* `Vsomeip.Sd.Received.answersNow`, `pendingClients`, `clears`, `added`, `takenBack` — what an entry
  calls for.
* `Vsomeip.Sd.Received.Accountable` — the answers are as many as the entries call for.

## Main results

* `Vsomeip.Sd.Received.processEventgroupentry_eq` — what the checks do with the response.
* `Vsomeip.Sd.Received.answered_iff_accountable` — the Subscribe entries of a message are answered
  exactly if the answers are as many as the entries call for.
* `Vsomeip.Sd.Received.not_answered_twoOptions` — a Subscribe with two endpoints for an unknown
  eventgroup is not answered.
-/

namespace Vsomeip.Sd

/-! ## Received messages -/

namespace MessageImpl

/-- An entry that is read requires its answers. -/
lemma Counted.addEntry {m : MessageImpl} (h : m.Counted) (e : Entry) : (m.addEntry e).Counted := by
  have hsum : ((m.entries ++ [e]).map Entry.referencedAcks).sum =
      m.numberRequiredAcks + e.referencedAcks := by
    rw [List.map_append, List.sum_append, h, List.map_singleton, List.sum_singleton]
  rw [MessageImpl.addEntry]
  split_ifs with htype hsame httl
  · exact h
  · rw [Counted, hsum, Entry.referencedAcks, if_pos ⟨htype, httl⟩]
  · rw [Counted, hsum, Entry.referencedAcks, if_neg fun h => httl h.2, UInt8.add_zero]
  · rw [Counted, hsum, Entry.referencedAcks, if_neg fun h => htype h.1, UInt8.add_zero]

/-- The loop over the entries counts the answers that they require. -/
lemma yields_counted_entriesLoop : ∀ (fuel : ℕ) {m : MessageImpl}, m.Counted →
    Parse.Yields Counted (entriesLoop fuel m)
  | 0, _, h => .pure h
  | fuel + 1, _, h => .then_of fun _ => .ite (fun _ => .pure h) fun _ => .then_of fun e =>
    yields_counted_entriesLoop fuel (h.addEntry e)

/-- A message that is read has counted the answers that its entries require. -/
lemma yields_counted_deserialize : Parse.Yields Counted deserialize := by
  have hprelude : Parse.Yields (fun p => p.1.Counted) deserializePrelude :=
    .then_of fun _ => .then_of fun _ => .then_of fun _ => .then_of fun _ => .pure rfl
  have hentries : Parse.Yields (fun m => ∀ m', m = some m' → m'.Counted) deserializeEntries := by
    refine hprelude.attempt.bind fun start hstart => .then_of fun _ => .then_of fun _ => ?_
    refine Parse.Yields.bind (P := fun m => ∀ m', m = some m' → m'.Counted) (.attempt ?_) fun m hm =>
      .then_of fun _ => .pure hm
    cases start with
    | none => exact .fail
    | some start => exact yields_counted_entriesLoop _ (hstart start rfl)
  refine hentries.bind fun m hm => .then_of fun d => .ite (fun _ => ?_) fun _ => ?_
  · cases m with
    | none => exact .fail
    | some m => exact .pure (hm m rfl)
  · refine .then_of fun length => .then_of fun _ => .then_of fun d => .then_of fun options => ?_
    cases m with
    | none => exact .fail
    | some m =>
      cases length with
      | none => exact .fail
      | some length => exact .pure (hm m rfl)

end MessageImpl

/-! ## Options -/

namespace SdOption

/-- The endpoint of an endpoint option. -/
def subscriberEndpoint (option : SdOption) : Option OptionEndpoint :=
  match option.base.type, option with
  | .ip4Endpoint, .ipv4 o => some ⟨o.address.toList, o.port, o.protocol = .tcp⟩
  | .ip6Endpoint, .ipv6 o => some ⟨o.address.toList, o.port, o.protocol = .tcp⟩
  | _, _ => none

/-- An endpoint option with a protocol that is not TCP and not UDP. -/
def hasUnknownProtocol (option : SdOption) : Bool :=
  match option.base.type, option with
  | .ip4Endpoint, .ipv4 o => o.protocol = .unknown
  | .ip6Endpoint, .ipv6 o => o.protocol = .unknown
  | _, _ => false

/-- An IPv4 endpoint option with an address or a port that a subscriber cannot have. -/
def isNoSubscriber (unicastAddress : Option (List.Vector UInt8 4)) (option : SdOption) : Bool :=
  match option.base.type, option with
  | .ip4Endpoint, .ipv4 o => !checkIpv4Address unicastAddress o.address || o.port == 0
  | _, _ => false

/-- An option that eventgroup entries do not have. -/
def isUnsupported (option : SdOption) : Bool :=
  match option.base.type with
  | .loadBalancing | .protection | .unknown => true
  | _ => false

/-- A configuration option. -/
def isConfiguration (option : SdOption) : Bool := option.base.type = .configuration

end SdOption

namespace Received

section Entries

variable (r : Received) (view : HostView) (e : EventgroupentryImpl)

/-- The options that an entry refers to. -/
def referenced : List (Option SdOption) :=
  (e.options1 ++ e.options2).map fun index => r.message.options[index.toNat]?

/-- The endpoints with a port among some options. -/
def endpointsOf (options : List (Option SdOption)) : List OptionEndpoint :=
  options.filterMap fun option =>
    (option.bind SdOption.subscriberEndpoint).filter (·.port ≠ illegalPort)

/-- An entry is refused for an option, behind some others: there is no such option, or a Subscribe
refers to an endpoint with an unknown protocol, or to one that is not behind two others and cannot be
that of a subscriber, or it is an unsupported option. -/
def refusesOption (before : List (Option SdOption)) : Option SdOption → Bool
  | none => true
  | some option =>
    e.type == .subscribeEventgroup &&
        (option.hasUnknownProtocol ||
          decide ((endpointsOf before).length < 2) && option.isNoSubscriber r.unicastAddress) ||
      option.isUnsupported && decide (e.ttl > 0)

/-- An entry is refused for the option at a position. -/
def refusesAt (n : ℕ) : Bool :=
  ((r.referenced e)[n]?).any (r.refusesOption e ((r.referenced e).take n))

/-- The position of the first option for which an entry is refused. -/
def refusedAt : Option ℕ := (List.range (r.referenced e).length).find? (r.refusesAt e)

/-- The option for which an entry is refused, if it is there. -/
def refusedOption : Option SdOption := (r.refusedAt e).bind fun n => ((r.referenced e)[n]?).join

/-- The options that are read. -/
def optionsRead : List (Option SdOption) :=
  (r.referenced e).take ((r.refusedAt e).getD (r.referenced e).length)

/-- How many of them are configuration options. -/
def configurations : ℕ := (r.optionsRead e).countP (·.any SdOption.isConfiguration)

/-- The endpoints of a Subscribe, at most two. -/
def subscribers : List OptionEndpoint := (endpointsOf (r.referenced e)).take 2

/-- One of the two. -/
def subscriber (i : ℕ) : OptionEndpoint := ((r.subscribers e)[i]?).getD .illegal

end Entries

end Received

/-! ## Checks -/

/-- What an entry is checked for, in the order of the checks. -/
inductive Check
  | returnCode
  | multicast
  | noOptions
  | optionsLength
  | fewerOptions
  | someipLength
  | option
  | reliability
  | eventgroup
  | majorVersion
  | tcpConnection
deriving DecidableEq

/-- All checks. -/
def Check.all : List Check :=
  [.returnCode, .multicast, .noOptions, .optionsLength, .fewerOptions, .someipLength, .option,
    .reliability, .eventgroup, .majorVersion, .tcpConnection]

namespace Received

section Entries

variable (r : Received) (view : HostView) (e : EventgroupentryImpl)

/-- A check refuses an entry, if those before it do not. -/
def fails : Check → Bool
  | .returnCode => r.message.header.code != returnCode
  | .multicast => e.type == .subscribeEventgroup && r.isMulticast
  | .noOptions => e.type == .subscribeEventgroup && e.numOptions1 == 0 && e.numOptions2 == 0
  | .optionsLength => e.type == .subscribeEventgroup && decide (r.message.optionsLength < 12)
  | .fewerOptions =>
    e.type == .subscribeEventgroup &&
      decide (r.message.options.length < e.numOptions1.toNat + e.numOptions2.toNat)
  | .someipLength =>
    e.type == .subscribeEventgroup && decide (r.message.header.length < r.message.getLength) &&
      decide (e.ttl > 0)
  | .option => (r.refusedAt e).isSome
  | .reliability =>
    e.type == .subscribeEventgroup &&
      EventgroupentryImpl.reliabilityNack view (r.subscriber e 0) (r.subscriber e 1) &&
      decide (e.ttl > 0)
  | .eventgroup => e.type == .subscribeEventgroup && view.findEventgroup.isNone
  | .majorVersion =>
    e.type == .subscribeEventgroup && view.findEventgroup.any (e.majorVersion != ·.major)
  | .tcpConnection =>
    e.type == .subscribeEventgroup &&
      (e.isNotEstablished view (r.subscriber e 0) || e.isNotEstablished view (r.subscriber e 1))

/-- The check that refuses an entry. -/
def refusal : Option Check := Check.all.find? (r.fails view e)

/-- What the routing manager says to the endpoints of a Subscribe that is not refused. -/
def targets : List (RemoteSubscriptionState × UInt16) :=
  if e.type = .subscribeEventgroup ∧ e.ttl > 0 then
    ((List.finRange 2).take (r.subscribers e).length).map view.onRemoteSubscription
  else []

/-- The answers that an entry gets at once. A Subscribe in a message with a wrong SOME/IP length gets
none, and an entry that is no Subscribe gets none for an option that is not there. -/
def answersNow : ℕ :=
  if e.ttl = 0 then 0
  else match r.refusal view e with
    | none => (r.targets view e).countP (·.1 ≠ .pending)
    | some .someipLength => 0
    | some .option =>
      if e.type = .subscribeEventgroup ∨ (r.refusedOption e).isSome then 1 else 0
    | some _ => 1

/-- An entry gets an answer at once or later: it is refused, or it has an endpoint. -/
def isAnswered : Bool :=
  decide (e.ttl > 0) &&
    match r.refusal view e with
    | none => !(r.targets view e).isEmpty
    | some .someipLength => false
    | some .option => e.type == .subscribeEventgroup || (r.refusedOption e).isSome
    | some _ => true

/-- The clients of the subscriptions of an entry that are pending. -/
def pendingClients : List UInt16 :=
  match r.refusal view e with
  | none => (r.targets view e).filterMap fun x => if x.1 = .pending then some x.2 else none
  | some _ => []

/-- An entry that refers to more options than there are makes the number of required answers 0. -/
def clears : Bool := decide (e.ttl > 0) && r.refusal view e == some .fewerOptions

/-- A Subscribe that refers to no option requires one answer more. -/
def added : ℕ := if e.ttl > 0 ∧ r.refusal view e = some .noOptions then 1 else 0

/-- One answer less is required for each configuration option that is read, for an unsupported option,
and for the other endpoint of a Subscribe that is refused because a TCP endpoint is not connected. -/
def takenBack : ℕ :=
  match r.refusal view e with
  | some .returnCode | some .multicast | some .noOptions | some .optionsLength | some .fewerOptions
  | some .someipLength => 0
  | some .option =>
    r.configurations e + if (r.refusedOption e).any SdOption.isUnsupported then 1 else 0
  | some .tcpConnection => r.configurations e + if (r.subscribers e).length = 2 then 1 else 0
  | _ => r.configurations e

/-- The answers that are required after an entry. -/
def requiredAfter (n : UInt8) : UInt8 :=
  if r.clears view e then 0
  else n + (UInt8.ofNat (r.added view e) - UInt8.ofNat (r.takenBack view e))

end Entries

/-! ## Messages -/

/-- The eventgroup entries of the message, with what the routing manager says to them. -/
def eventgroups (r : Received) : List (EventgroupentryImpl × HostView) :=
  r.message.entries.zipIdx.filterMap fun
    | (.service _, _) => none
    | (.eventgroup e, i) => some (e, r.host i)

/-- The answers that the message requires: those that its Subscribe entries refer to, or 0 if an entry
has made it 0, with what the entries have added and taken back, those behind the last one that has made
it 0. -/
def requiredAcks (r : Received) : UInt8 :=
  (if r.eventgroups.any fun x => r.clears x.2 x.1 then 0
    else (r.message.entries.map Entry.referencedAcks).sum) +
  ((r.eventgroups.rtakeWhile fun x => !r.clears x.2 x.1).map fun x =>
    UInt8.ofNat (r.added x.2 x.1) - UInt8.ofNat (r.takenBack x.2 x.1)).sum

/-- For each Subscribe, an entry with its service, instance, eventgroup, version and counter is refused
or has an endpoint. If some are pending, the answers that the message requires are as many as it gets
at once and later; if none is, it gets enough at once. -/
def Accountable (r : Received) : Prop :=
  r.subscribes ≠ [] →
    let atOnce := (r.eventgroups.map fun x => r.answersNow x.2 x.1).sum % 256
    let pending := (r.eventgroups.map fun x => (r.pendingClients x.2 x.1).length).sum
    let referenced := (r.message.entries.map Entry.referencedAcks).sum
    (∀ e ∈ r.subscribes, ∃ x ∈ r.eventgroups,
      x.1.subscription = e.subscription ∧ r.isAnswered x.2 x.1) ∧
    if pending = 0 then
      (referenced ≠ 0 ∨ r.requiredAcks ≠ 0) ∧ r.requiredAcks.toNat ≤ atOnce
    else
      atOnce + pending = r.requiredAcks.toNat ∨
        referenced = 0 ∧ r.requiredAcks = 0 ∧ pending = 1

/-! ## The loop over the options -/

section Options

variable {r : Received} {e : EventgroupentryImpl}

/-- The endpoints that are read, and the two places for them. -/
def Places : List OptionEndpoint → OptionEndpoint → OptionEndpoint → Prop
  | [], first, second => first.port = illegalPort ∧ second.port = illegalPort
  | [a], first, second => first = a ∧ second.port = illegalPort
  | a :: b :: _, first, second => first = a ∧ second = b

/-- An option more. -/
lemma endpointsOf_concat (options : List (Option SdOption)) (option : SdOption) :
    endpointsOf (options ++ [some option]) =
      endpointsOf options ++ (option.subscriberEndpoint.filter (·.port ≠ illegalPort)).toList := by
  rw [endpointsOf, List.filterMap_append, ← endpointsOf, List.filterMap_cons, Option.bind_some]
  cases option.subscriberEndpoint.filter (·.port ≠ illegalPort) <;> rfl

/-- The endpoints have a port. -/
lemma port_ne_of_mem_endpointsOf {options : List (Option SdOption)} {endpoint : OptionEndpoint}
    (h : endpoint ∈ endpointsOf options) : endpoint.port ≠ illegalPort := by
  obtain ⟨option, -, hoption⟩ := List.mem_filterMap.mp h
  simpa using (Option.filter_eq_some_iff.mp hoption).2

/-- There is a place for another endpoint. -/
lemma Places.exists_free_iff {options : List (Option SdOption)} {first second : OptionEndpoint}
    (h : Places (endpointsOf options) first second) :
    (first.port = illegalPort ∨ second.port = illegalPort) ↔ (endpointsOf options).length < 2 := by
  have hport {endpoint : OptionEndpoint} :
      endpoint ∈ endpointsOf options → endpoint.port ≠ illegalPort := port_ne_of_mem_endpointsOf
  revert h hport
  cases endpointsOf options with
  | nil => exact fun h _ => iff_of_true (.inl h.1) (Nat.zero_lt_succ _)
  | cons a l =>
    cases l with
    | nil => exact fun h _ => iff_of_true (.inr h.2) (Nat.lt_succ_self _)
    | cons b l =>
      rintro ⟨rfl, rfl⟩ hport
      refine iff_of_false (not_or.mpr ⟨hport List.mem_cons_self, ?_⟩) (by simp)
      exact hport (List.mem_cons_of_mem _ List.mem_cons_self)

/-- An endpoint that is read goes to its place. -/
lemma Places.place {options : List (Option SdOption)} {first second : OptionEndpoint}
    (h : Places (endpointsOf options) first second) {option : SdOption} {endpoint : OptionEndpoint}
    (hendpoint : option.subscriberEndpoint = some endpoint) :
    Places (endpointsOf (options ++ [some option])) (placeEndpoint first second endpoint).1
      (placeEndpoint first second endpoint).2 := by
  have hnew : endpointsOf (options ++ [some option]) =
      endpointsOf options ++ if endpoint.port = illegalPort then [] else [endpoint] := by
    rw [endpointsOf_concat, hendpoint]
    by_cases hport : endpoint.port = illegalPort <;> simp [hport]
  have hport {endpoint : OptionEndpoint} :
      endpoint ∈ endpointsOf options → endpoint.port ≠ illegalPort := port_ne_of_mem_endpointsOf
  rw [hnew, placeEndpoint]
  revert h hport
  cases endpointsOf options with
  | nil =>
    intro h _
    rw [if_pos h.1]
    by_cases hillegal : endpoint.port = illegalPort
    · rw [if_pos hillegal]
      exact ⟨hillegal, h.2⟩
    · rw [if_neg hillegal]
      exact ⟨rfl, h.2⟩
  | cons a l =>
    cases l with
    | nil =>
      rintro ⟨rfl, hsecond⟩ hport
      rw [if_neg (hport List.mem_cons_self), if_pos hsecond]
      by_cases hillegal : endpoint.port = illegalPort
      · rw [if_pos hillegal]
        exact ⟨rfl, hillegal⟩
      · rw [if_neg hillegal]
        exact ⟨rfl, rfl⟩
    | cons b l =>
      rintro ⟨rfl, rfl⟩ hport
      rw [if_neg (hport List.mem_cons_self),
        if_neg (hport (List.mem_cons_of_mem _ List.mem_cons_self))]
      exact ⟨rfl, rfl⟩

/-- What is done with the response for an option for which the entry is refused. -/
def refusalCalls (e : EventgroupentryImpl) : Option SdOption → List ResponseCall
  | none => if e.type = .subscribeEventgroup then e.nackUnlessStop else []
  | some option =>
    if option.isUnsupported then [.decreaseNumberRequiredAcks, .insertSubscriptionNack]
    else e.nackUnlessStop

/-- The places after an option that is read. -/
def placesAfter (e : EventgroupentryImpl) (first second : OptionEndpoint) (option : SdOption) :
    OptionEndpoint × OptionEndpoint :=
  if e.type = .subscribeEventgroup then
    (option.subscriberEndpoint.map (placeEndpoint first second)).getD (first, second)
  else (first, second)

/-- What is done for an option. -/
lemma readOption_eq {before : List (Option SdOption)} {first second : OptionEndpoint}
    (hplaces : e.type = .subscribeEventgroup → Places (endpointsOf before) first second)
    (option : SdOption) :
    r.readOption e first second option =
      if r.refusesOption e before (some option) then (refusalCalls e (some option), none)
      else (if option.isConfiguration then [.decreaseNumberRequiredAcks] else [],
        some (placesAfter e first second option)) := by
  have hfree (hsub : e.type = .subscribeEventgroup) := (hplaces hsub).exists_free_iff
  obtain ⟨type, htype⟩ : ∃ type, option.base.type = type := ⟨_, rfl⟩
  by_cases hsub : e.type = .subscribeEventgroup <;> cases type <;> cases option <;>
    simp [readOption, refusesOption, refusalCalls, placesAfter, SdOption.hasUnknownProtocol,
      SdOption.isNoSubscriber, SdOption.isUnsupported, SdOption.isConfiguration,
      SdOption.subscriberEndpoint, htype, hsub, hfree]
  -- an IPv4 endpoint is looked at twice
  rw [ite_or]

/-- The option for which an entry is refused: it is refused, and none before it. -/
lemma refusedAt_eq_some_iff {n : ℕ} : r.refusedAt e = some n ↔
    r.refusesAt e n = true ∧ n < (r.referenced e).length ∧ ∀ m < n, r.refusesAt e m = false := by
  simp [refusedAt]

/-- An entry is refused for none of its options. -/
lemma refusedAt_eq_none_iff :
    r.refusedAt e = none ↔ ∀ n < (r.referenced e).length, r.refusesAt e n = false := by
  simp [refusedAt]

/-- The places behind an option that is read. -/
lemma Places.placesAfter {before : List (Option SdOption)} {first second : OptionEndpoint}
    (hsub : e.type = .subscribeEventgroup) (h : Places (endpointsOf before) first second)
    (option : SdOption) :
    Places (endpointsOf (before ++ [some option])) (placesAfter e first second option).1
      (placesAfter e first second option).2 := by
  rw [Received.placesAfter, if_pos hsub]
  cases hendpoint : option.subscriberEndpoint with
  | none =>
    rw [endpointsOf_concat, hendpoint]
    exact (List.append_nil (endpointsOf before)).symm ▸ h
  | some endpoint => exact h.place hendpoint

/-- **The loop over the options of an entry** ends at the first option for which the entry is refused.

**Proof sketch.** Induction on the options that are left, for any options before that are read. The
next one is the first that is refused, or it is read and joins those before. -/
lemma readOptions_eq : ∀ (indices : List UInt8) (before : List (Option SdOption))
    (first second : OptionEndpoint),
    r.referenced e = before ++ indices.map (fun index => r.message.options[index.toNat]?) →
    (∀ n < before.length, r.refusesAt e n = false) →
    (e.type = .subscribeEventgroup → Places (endpointsOf before) first second) →
    ∃ first' second', r.readOptions e first second indices =
      (List.replicate (((r.optionsRead e).drop before.length).countP (·.any SdOption.isConfiguration))
          .decreaseNumberRequiredAcks ++
          if (r.refusedAt e).isSome then refusalCalls e (r.refusedOption e) else [],
        if (r.refusedAt e).isSome then none else some (first', second')) ∧
      (r.refusedAt e = none → e.type = .subscribeEventgroup →
        Places (endpointsOf (r.referenced e)) first' second')
  | [], before, first, second, hread, hgood, hplaces => by
    rw [List.map_nil, List.append_nil] at hread
    have hnone : r.refusedAt e = none := refusedAt_eq_none_iff.mpr (hread ▸ hgood)
    refine ⟨first, second, ?_, fun _ hsub => hread ▸ hplaces hsub⟩
    rw [readOptions, optionsRead, hnone, hread, Option.getD_none, List.take_length,
      List.drop_length]
    rfl
  | index :: indices, before, first, second, hread, hgood, hplaces => by
    rw [List.map_cons] at hread
    generalize hoption : r.message.options[index.toNat]? = option at hread
    have hlength : before.length < (r.referenced e).length := by simp [hread]
    have hget : (r.referenced e)[before.length]? = some option := by simp [hread]
    have hrefuses : r.refusesAt e before.length = r.refusesOption e before option := by
      rw [refusesAt, hget, hread, List.take_left]
      rfl
    by_cases hrefused : r.refusesOption e before option
    · have hat : r.refusedAt e = some before.length :=
        refusedAt_eq_some_iff.mpr ⟨hrefuses.trans hrefused, hlength, hgood⟩
      refine ⟨first, second, ?_, fun hnone => by rw [hat] at hnone; cases hnone⟩
      have hdrop : (r.optionsRead e).drop before.length = [] := by
        rw [optionsRead, hat, Option.getD_some, hread, List.take_left, List.drop_length]
      have hcalls : r.refusedOption e = option := by
        rw [refusedOption, hat, Option.bind_some, hget, Option.join_some]
      rw [hdrop, hcalls, hat, readOptions, hoption]
      cases option with
      | none => rfl
      | some option =>
        dsimp only
        rw [readOption_eq hplaces option, if_pos hrefused]
        rfl
    · cases option with
      | none => exact absurd rfl hrefused
      | some option =>
        have hgood' : ∀ n < (before ++ [some option]).length, r.refusesAt e n = false := by
          intro n hn
          rw [List.length_append, List.length_singleton, Nat.lt_succ_iff_lt_or_eq] at hn
          obtain hn | rfl := hn
          · exact hgood n hn
          · exact hrefuses.trans (Bool.eq_false_iff.mpr hrefused)
        have hread' : r.referenced e = before ++ [some option] ++
            indices.map (fun index => r.message.options[index.toNat]?) := by
          rw [hread, List.append_assoc]
          rfl
        obtain ⟨first', second', heq, hplaces'⟩ := readOptions_eq indices _ _ _ hread' hgood'
          fun hsub => (hplaces hsub).placesAfter hsub option
        refine ⟨first', second', ?_, hplaces'⟩
        have hlt : before.length < (r.refusedAt e).getD (r.referenced e).length := by
          cases hat : r.refusedAt e with
          | none => exact hlength
          | some n =>
            by_contra hle
            have hn := hgood' n (by simpa using Nat.lt_succ_of_le (Nat.not_lt.mp hle))
            rw [(refusedAt_eq_some_iff.mp hat).1] at hn
            cases hn
        have hdrop : (r.optionsRead e).drop before.length =
            some option :: (r.optionsRead e).drop (before ++ [some option]).length := by
          have hsome : (r.optionsRead e)[before.length]? = some (some option) := by
            rw [optionsRead, List.getElem?_take_of_lt hlt, hget]
          obtain ⟨hbound, hvalue⟩ := List.getElem?_eq_some_iff.mp hsome
          rw [List.drop_eq_getElem_cons hbound, hvalue, List.length_append, List.length_singleton]
        rw [hdrop, readOptions, hoption]
        dsimp only
        rw [readOption_eq hplaces option, if_neg hrefused]
        dsimp only
        rw [heq, List.countP_cons]
        by_cases hconfiguration : option.isConfiguration
        · simp [hconfiguration, List.replicate_succ]
        · simp [hconfiguration]

end Options

/-! ## The checks -/

section Checks

variable {r : Received} {view : HostView} {e : EventgroupentryImpl}

/-- An endpoint without a port is no endpoint. -/
lemma handleEventgroupSubscription_of_first {first second : OptionEndpoint}
    (h : first.port = illegalPort) : e.handleEventgroupSubscription view first second =
      e.handleEventgroupSubscription view .illegal second := by
  simp [EventgroupentryImpl.handleEventgroupSubscription, EventgroupentryImpl.reliabilityNack,
    EventgroupentryImpl.isNotEstablished, EventgroupentryImpl.subscribeTarget,
    OptionEndpoint.illegal, h]

/-- An endpoint without a port is no endpoint. -/
lemma handleEventgroupSubscription_of_second {first second : OptionEndpoint}
    (h : second.port = illegalPort) : e.handleEventgroupSubscription view first second =
      e.handleEventgroupSubscription view first .illegal := by
  simp [EventgroupentryImpl.handleEventgroupSubscription, EventgroupentryImpl.reliabilityNack,
    EventgroupentryImpl.isNotEstablished, EventgroupentryImpl.subscribeTarget,
    OptionEndpoint.illegal, h]

/-- The places hold the endpoints of the Subscribe. -/
lemma handleEventgroupSubscription_eq {first second : OptionEndpoint}
    (h : Places (endpointsOf (r.referenced e)) first second) :
    e.handleEventgroupSubscription view first second =
      e.handleEventgroupSubscription view (r.subscriber e 0) (r.subscriber e 1) := by
  rw [subscriber, subscriber, subscribers]
  revert h
  cases endpointsOf (r.referenced e) with
  | nil =>
    intro h
    rw [handleEventgroupSubscription_of_first h.1, handleEventgroupSubscription_of_second h.2]
    rfl
  | cons a l =>
    cases l with
    | nil =>
      rintro ⟨rfl, h⟩
      rw [handleEventgroupSubscription_of_second h]
      rfl
    | cons b l =>
      rintro ⟨rfl, rfl⟩
      rfl

/-- An endpoint of the Subscribe has a port. -/
lemma port_subscriber_ne_iff (i : ℕ) :
    (r.subscriber e i).port ≠ illegalPort ↔ i < (r.subscribers e).length := by
  rw [subscriber]
  by_cases hi : i < (r.subscribers e).length
  · rw [List.getElem?_eq_getElem hi, Option.getD_some]
    exact iff_of_true (port_ne_of_mem_endpointsOf (List.mem_of_mem_take (List.getElem_mem hi))) hi
  · rw [List.getElem?_eq_none (Nat.not_lt.mp hi), Option.getD_none]
    exact iff_of_false (not_not.mpr rfl) hi

/-- There are two endpoints at most. -/
lemma length_subscribers_le : (r.subscribers e).length ≤ 2 := List.length_take_le _ _

/-- There are two if the second one has a port. -/
lemma length_subscribers_eq_two_iff :
    (r.subscribers e).length = 2 ↔ (r.subscriber e 1).port ≠ illegalPort := by
  have hle := length_subscribers_le (r := r) (e := e)
  rw [port_subscriber_ne_iff]
  omega

/-- What is done with the response for what the routing manager says. -/
def targetCall : RemoteSubscriptionState × UInt16 → ResponseCall
  | (.acked, _) => .insertSubscriptionAck
  | (.nacked, _) => .insertSubscriptionNack
  | (.error, _) => .insertSubscriptionNack
  | (.pending, client) => .setPending client

/-- The calls for the endpoints. -/
lemma subscribeTarget_eq (hsub : e.type = .subscribeEventgroup) (httl : e.ttl > 0) :
    EventgroupentryImpl.subscribeTarget view 0 (r.subscriber e 0) ++
      EventgroupentryImpl.subscribeTarget view 1 (r.subscriber e 1) =
    (r.targets view e).map targetCall := by
  have hcall {i : Fin 2} {endpoint : OptionEndpoint} (h : endpoint.port ≠ illegalPort) :
      EventgroupentryImpl.subscribeTarget view i endpoint =
        [targetCall (view.onRemoteSubscription i)] := by
    rw [EventgroupentryImpl.subscribeTarget, if_neg h]
    rcases view.onRemoteSubscription i with ⟨_ | _ | _ | _, client⟩ <;> rfl
  have hnone {i : Fin 2} {endpoint : OptionEndpoint} (h : ¬ endpoint.port ≠ illegalPort) :
      EventgroupentryImpl.subscribeTarget view i endpoint = [] :=
    if_pos (not_not.mp h)
  have hle := length_subscribers_le (r := r) (e := e)
  have h0 := port_subscriber_ne_iff (r := r) (e := e) 0
  have h1 := port_subscriber_ne_iff (r := r) (e := e) 1
  rw [targets, if_pos ⟨hsub, httl⟩]
  generalize (r.subscribers e).length = n at hle h0 h1
  match n, hle with
  | 0, _ => rw [hnone (by simp [h0]), hnone (by simp [h1])]; rfl
  | 1, _ => rw [hcall (by simp [h0]), hnone (by simp [h1])]; rfl
  | 2, _ => rw [hcall (by simp [h0]), hcall (by simp [h1])]; rfl

/-- What the checks do with the response, by the check that refuses the entry. -/
def checkCalls (r : Received) (view : HostView) (e : EventgroupentryImpl) : List ResponseCall :=
  match r.refusal view e with
  | some .returnCode | some .multicast | some .optionsLength => e.nackUnlessStop
  | some .noOptions =>
    if e.ttl > 0 then [.increaseNumberRequiredAcks, .insertSubscriptionNack] else []
  | some .fewerOptions =>
    if e.ttl > 0 then [.clearNumberRequiredAcks, .insertSubscriptionNack] else []
  | some .someipLength => []
  | some .option =>
    List.replicate (r.configurations e) .decreaseNumberRequiredAcks ++
      refusalCalls e (r.refusedOption e)
  | some .reliability | some .eventgroup | some .majorVersion =>
    List.replicate (r.configurations e) .decreaseNumberRequiredAcks ++ e.nackUnlessStop
  | some .tcpConnection =>
    List.replicate (r.configurations e) .decreaseNumberRequiredAcks ++ .insertSubscriptionNack ::
      if (r.subscribers e).length = 2 then [.decreaseNumberRequiredAcks] else []
  | none =>
    List.replicate (r.configurations e) .decreaseNumberRequiredAcks ++
      (r.targets view e).map targetCall

/-- The checks of `handle_eventgroup_subscription`. -/
lemma handleEventgroupSubscription_eq_checkCalls (hsub : e.type = .subscribeEventgroup)
    (hbefore : ∀ c ∈ [Check.returnCode, .multicast, .noOptions, .optionsLength, .fewerOptions,
      .someipLength, .option], r.fails view e c = false) :
    List.replicate (r.configurations e) .decreaseNumberRequiredAcks ++
      e.handleEventgroupSubscription view (r.subscriber e 0) (r.subscriber e 1) =
    r.checkCalls view e := by
  simp only [List.forall_mem_cons, List.not_mem_nil, false_implies, implies_true, and_true] at hbefore
  obtain ⟨h1, h2, h3, h4, h5, h6, h7⟩ := hbefore
  have hrefusal : r.refusal view e = [Check.reliability, .eventgroup, .majorVersion,
      .tcpConnection].find? (r.fails view e) := by
    simp [refusal, Check.all, h1, h2, h3, h4, h5, h6, h7]
  have hreliability : r.fails view e .reliability =
      (EventgroupentryImpl.reliabilityNack view (r.subscriber e 0) (r.subscriber e 1) &&
        decide (e.ttl > 0)) := by simp [fails, hsub]
  rw [EventgroupentryImpl.handleEventgroupSubscription, checkCalls, hrefusal]
  by_cases h8 : r.fails view e .reliability
  · rw [if_pos (hreliability ▸ h8), List.find?_cons_of_pos h8]
    rw [hreliability, Bool.and_eq_true, decide_eq_true_eq] at h8
    rw [EventgroupentryImpl.nackUnlessStop, if_pos h8.2]
  rw [if_neg (hreliability ▸ h8), List.find?_cons_of_neg h8]
  cases hfind : view.findEventgroup with
  | none =>
    rw [List.find?_cons_of_pos (by simp [fails, hsub, hfind])]
  | some info =>
    rw [List.find?_cons_of_neg (by simp [fails, hfind])]
    dsimp only
    by_cases h10 : e.majorVersion ≠ info.major
    · rw [if_pos h10, List.find?_cons_of_pos (by simpa [fails, hsub, hfind] using h10)]
    rw [if_neg h10, List.find?_cons_of_neg (by simpa [fails, hsub, hfind] using h10)]
    by_cases h11 : e.isNotEstablished view (r.subscriber e 0)
    · rw [if_pos h11, List.find?_cons_of_pos (by simp [fails, hsub, h11])]
      simp only [length_subscribers_eq_two_iff]
    rw [if_neg h11]
    by_cases h12 : e.isNotEstablished view (r.subscriber e 1)
    · rw [if_pos h12, List.find?_cons_of_pos (by simp [fails, hsub, h12])]
      have hsecond : (r.subscriber e 1).port ≠ illegalPort := by
        simp only [EventgroupentryImpl.isNotEstablished, Bool.and_eq_true, bne_iff_ne] at h12
        exact h12.1.1.1
      have htwo := length_subscribers_eq_two_iff.mpr hsecond
      dsimp only
      rw [if_pos htwo, if_pos ((port_subscriber_ne_iff 0).mpr (by omega))]
    rw [if_neg h12, List.find?_cons_of_neg (by simp [fails, h11, h12]), List.find?_nil]
    dsimp only
    by_cases httl : e.ttl = 0
    · rw [if_pos httl, targets, if_neg (by simp [httl])]
      rfl
    · rw [if_neg httl, subscribeTarget_eq hsub (UInt32.pos_iff_ne_zero.mpr httl)]

/-- **What the checks do with the response**, for the first one that refuses the entry. -/
lemma processEventgroupentry_eq :
    r.processEventgroupentry view e = r.checkCalls view e := by
  rw [processEventgroupentry]
  by_cases h1 : r.fails view e .returnCode
  · have hrefusal : r.refusal view e = some .returnCode := by simp [refusal, Check.all, h1]
    rw [if_pos (by simpa [fails] using h1), checkCalls, hrefusal]
  rw [if_neg (by simpa [fails] using h1)]
  by_cases h2 : r.fails view e .multicast
  · have hrefusal : r.refusal view e = some .multicast := by simp [refusal, Check.all, h1, h2]
    rw [if_pos (by simpa [fails] using h2), checkCalls, hrefusal]
  rw [if_neg (by simpa [fails] using h2)]
  by_cases h3 : r.fails view e .noOptions
  · have hrefusal : r.refusal view e = some .noOptions := by simp [refusal, Check.all, h1, h2, h3]
    rw [if_pos (by simpa [fails, and_assoc] using h3), checkCalls, hrefusal]
  rw [if_neg (by simpa [fails] using h3)]
  by_cases h4 : r.fails view e .optionsLength
  · have hrefusal : r.refusal view e = some .optionsLength := by
      simp [refusal, Check.all, h1, h2, h3, h4]
    rw [if_pos (by simpa [fails] using h4), checkCalls, hrefusal]
  rw [if_neg (by simpa [fails] using h4)]
  by_cases h5 : r.fails view e .fewerOptions
  · have hrefusal : r.refusal view e = some .fewerOptions := by
      simp [refusal, Check.all, h1, h2, h3, h4, h5]
    rw [if_pos (by simpa [fails] using h5), checkCalls, hrefusal]
  rw [if_neg (by simpa [fails] using h5)]
  by_cases h6 : r.fails view e .someipLength
  · have hrefusal : r.refusal view e = some .someipLength := by
      simp [refusal, Check.all, h1, h2, h3, h4, h5, h6]
    rw [if_pos (by simpa [fails, and_assoc] using h6), checkCalls, hrefusal]
  rw [if_neg (by simpa [fails] using h6)]
  obtain ⟨first, second, hread, hplaces⟩ := readOptions_eq (r := r) (e := e)
    (e.options1 ++ e.options2) [] .illegal .illegal rfl
    (fun n hn => absurd hn (Nat.not_lt_zero n)) fun _ => ⟨rfl, rfl⟩
  rw [List.length_nil, List.drop_zero, ← configurations] at hread
  rw [hread]
  by_cases h7 : r.fails view e .option
  · have hrefusal : r.refusal view e = some .option := by
      simp [refusal, Check.all, h1, h2, h3, h4, h5, h6, h7]
    have hat : (r.refusedAt e).isSome = true := h7
    rw [if_pos hat, if_pos hat, checkCalls, hrefusal]
  have hat : r.refusedAt e = none := by simpa [fails] using h7
  rw [hat, if_neg (by simp), if_neg (by simp), List.append_nil]
  dsimp only
  by_cases hsub : e.type = .subscribeEventgroup
  · rw [if_pos hsub, handleEventgroupSubscription_eq (hplaces hat hsub)]
    refine handleEventgroupSubscription_eq_checkCalls hsub ?_
    simp [h1, h2, h3, h4, h5, h6, h7]
  · have hcode : r.message.header.code = returnCode := by simpa [fails] using h1
    have hrefusal : r.refusal view e = none := by simp [refusal, Check.all, fails, hsub, hcode, hat]
    rw [if_neg hsub, checkCalls, hrefusal]
    dsimp only
    rw [targets, if_neg fun h => hsub h.1]
    rfl

end Checks

/-! ## What an entry calls for -/

section Entries

variable {r : Received} {view : HostView} {e : EventgroupentryImpl}

/-- An unsupported option refuses an entry with time to live only. -/
lemma ttl_pos_of_isUnsupported {before : List (Option SdOption)} {option : SdOption}
    (hrefuses : r.refusesOption e before (some option)) (h : option.isUnsupported) : e.ttl > 0 := by
  have hprotocol : option.hasUnknownProtocol = false ∧
      option.isNoSubscriber r.unicastAddress = false := by
    simp only [SdOption.isUnsupported, SdOption.hasUnknownProtocol, SdOption.isNoSubscriber] at h ⊢
    split at h <;> simp_all
  simpa [refusesOption, hprotocol.1, hprotocol.2, h] using hrefuses

/-- What is done for the option for which an entry is refused. -/
lemma refusalCalls_eq (hat : (r.refusedAt e).isSome) :
    refusalCalls e (r.refusedOption e) =
      (if (r.refusedOption e).any SdOption.isUnsupported then
        [.decreaseNumberRequiredAcks] else []) ++
      if e.ttl > 0 ∧ (e.type = .subscribeEventgroup ∨ (r.refusedOption e).isSome) then
        [.insertSubscriptionNack] else [] := by
  obtain ⟨n, hn⟩ := Option.isSome_iff_exists.mp hat
  obtain ⟨hrefuses, hlength, -⟩ := refusedAt_eq_some_iff.mp hn
  have hoption : r.refusedOption e = (r.referenced e)[n] := by
    rw [refusedOption, hn, Option.bind_some, List.getElem?_eq_getElem hlength, Option.join_some]
  rw [refusesAt, List.getElem?_eq_getElem hlength, Option.any_some] at hrefuses
  rw [hoption]
  generalize (r.referenced e)[n] = option at hrefuses
  cases option with
  | none =>
    by_cases hsub : e.type = .subscribeEventgroup <;>
      simp [refusalCalls, EventgroupentryImpl.nackUnlessStop, hsub]
  | some option =>
    by_cases hunsupported : option.isUnsupported
    · simp [refusalCalls, hunsupported, ttl_pos_of_isUnsupported hrefuses hunsupported]
    · simp [refusalCalls, hunsupported, EventgroupentryImpl.nackUnlessStop]

/-- The check for options refuses an entry for an option. -/
lemma isSome_refusedAt (h : r.refusal view e = some .option) : (r.refusedAt e).isSome := by
  have hfails : r.fails view e .option = true := List.find?_some h
  exact hfails

/-- Only a Subscribe with time to live is refused for a TCP endpoint. -/
lemma ttl_pos_of_tcpConnection (h : r.refusal view e = some .tcpConnection) : e.ttl > 0 := by
  have hfails : r.fails view e .tcpConnection = true := List.find?_some h
  simp only [fails, EventgroupentryImpl.isNotEstablished, Bool.and_eq_true, Bool.or_eq_true,
    decide_eq_true_eq] at hfails
  obtain ⟨-, h | h⟩ := hfails <;> exact h.1.2

/-- Several answers are taken back. -/
lemma foldl_required_replicate (k : ℕ) (n : UInt8) :
    (List.replicate k (e, ResponseCall.decreaseNumberRequiredAcks)).foldl required n =
      n - UInt8.ofNat k := by
  induction k generalizing n with
  | zero => simp
  | succ k ih =>
    rw [List.replicate_succ, List.foldl_cons, ih, UInt8.ofNat_add]
    simp only [required]
    grind

/-- What the routing manager says does not change the number of required answers. -/
lemma foldl_required_targets (l : List (RemoteSubscriptionState × UInt16)) (n : UInt8) :
    (l.map fun x => (e, targetCall x)).foldl required n = n := by
  induction l with
  | nil => rfl
  | cons x l ih =>
    obtain ⟨state, client⟩ := x
    rw [List.map_cons, List.foldl_cons]
    cases state <;> exact ih

/-- The calls of the checks change the number of required answers as the entry calls for. -/
lemma foldl_required_checkCalls (n : UInt8) :
    ((r.checkCalls view e).map (e, ·)).foldl required n = r.requiredAfter view e n := by
  rw [checkCalls, requiredAfter, clears, added, takenBack]
  cases hrefusal : r.refusal view e with
  | none =>
    simp [foldl_required_replicate, foldl_required_targets, Function.comp_def, UInt8.sub_eq_add_neg]
  | some c =>
    cases c with
    | option =>
      rw [refusalCalls_eq (isSome_refusedAt hrefusal)]
      by_cases hunsupported : (r.refusedOption e).any SdOption.isUnsupported <;>
        by_cases hnack : e.ttl > 0 ∧
          (e.type = .subscribeEventgroup ∨ (r.refusedOption e).isSome) <;>
        simp [hunsupported, hnack, required, foldl_required_replicate] <;> grind
    | tcpConnection =>
      by_cases htwo : (r.subscribers e).length = 2 <;>
        simp [htwo, required, foldl_required_replicate] <;> grind
    | _ =>
      by_cases httl : e.ttl > 0 <;>
        simp [httl, EventgroupentryImpl.nackUnlessStop, required, foldl_required_replicate,
          UInt8.sub_eq_add_neg]

/-- Taking back is no answer. -/
lemma countP_replicate (k : ℕ) :
    (List.replicate k (e, ResponseCall.decreaseNumberRequiredAcks)).countP answersAtOnce = 0 := by
  simp [List.countP_replicate, answersAtOnce]

/-- Taking back is no pending subscription. -/
lemma filterMap_replicate (k : ℕ) :
    (List.replicate k (e, ResponseCall.decreaseNumberRequiredAcks)).filterMap pendingAnswer = [] := by
  simp [pendingAnswer]

/-- What the routing manager answers at once. -/
lemma countP_targets (l : List (RemoteSubscriptionState × UInt16)) :
    (l.map fun x => (e, targetCall x)).countP answersAtOnce = l.countP (·.1 ≠ .pending) := by
  rw [List.countP_map]
  refine List.countP_congr fun x _ => ?_
  obtain ⟨state, client⟩ := x
  cases state <;> simp [answersAtOnce, targetCall]

/-- What the routing manager leaves pending. -/
lemma filterMap_targets (l : List (RemoteSubscriptionState × UInt16)) :
    (l.map fun x => (e, targetCall x)).filterMap pendingAnswer =
      (l.filterMap fun x => if x.1 = .pending then some x.2 else none).map (⟨e, ·⟩) := by
  rw [List.filterMap_map, List.map_filterMap]
  refine List.filterMap_congr fun x _ => ?_
  obtain ⟨state, client⟩ := x
  cases state <;> rfl

/-- The calls of the checks contain the answers that the entry gets at once. -/
lemma countP_checkCalls :
    ((r.checkCalls view e).map (e, ·)).countP answersAtOnce = r.answersNow view e := by
  rw [checkCalls, answersNow]
  cases hrefusal : r.refusal view e with
  | none =>
    by_cases httl : e.ttl = 0
    · simp [targets, httl, countP_replicate]
    · simp only [httl, List.map_append, List.map_replicate, List.map_map, List.countP_append,
        countP_replicate, Nat.zero_add, if_false]
      exact countP_targets _
  | some c =>
    cases c with
    | option =>
      rw [refusalCalls_eq (isSome_refusedAt hrefusal)]
      by_cases hunsupported : (r.refusedOption e).any SdOption.isUnsupported <;>
        by_cases httl : e.ttl = 0 <;>
        by_cases hnack : e.type = .subscribeEventgroup ∨ (r.refusedOption e).isSome <;>
        simp [hunsupported, httl, hnack, UInt32.pos_iff_ne_zero, answersAtOnce]
    | tcpConnection =>
      have httl := ttl_pos_of_tcpConnection hrefusal
      by_cases htwo : (r.subscribers e).length = 2 <;>
        simp [htwo, (UInt32.pos_iff_ne_zero.mp httl), answersAtOnce]
    | _ =>
      by_cases httl : e.ttl = 0 <;>
        simp [httl, EventgroupentryImpl.nackUnlessStop, UInt32.pos_iff_ne_zero, answersAtOnce]

/-- The calls of the checks contain the pending subscriptions of the entry. -/
lemma filterMap_checkCalls : ((r.checkCalls view e).map (e, ·)).filterMap pendingAnswer =
    (r.pendingClients view e).map (⟨e, ·⟩) := by
  rw [checkCalls, pendingClients]
  cases hrefusal : r.refusal view e with
  | none =>
    simp only [List.map_append, List.map_replicate, List.map_map, List.filterMap_append,
      filterMap_replicate, List.nil_append]
    exact filterMap_targets _
  | some c =>
    cases c with
    | option =>
      rw [refusalCalls_eq (isSome_refusedAt hrefusal)]
      split_ifs <;> simp [pendingAnswer]
    | tcpConnection => split_ifs <;> simp [pendingAnswer]
    | _ =>
      by_cases httl : e.ttl > 0 <;> simp [httl, EventgroupentryImpl.nackUnlessStop, pendingAnswer]

/-- An entry is answered if it gets answers at once or later. -/
lemma isAnswered_iff :
    r.isAnswered view e ↔ 0 < r.answersNow view e ∨ r.pendingClients view e ≠ [] := by
  rw [isAnswered, answersNow, pendingClients]
  by_cases httl : e.ttl = 0
  · have hnone : r.targets view e = [] := if_neg (by simp [httl])
    cases r.refusal view e <;> simp [httl, hnone]
  · cases r.refusal view e with
    | none =>
      generalize r.targets view e = l
      cases l with
      | nil => simp [httl]
      | cons x l =>
        obtain ⟨state, client⟩ := x
        cases state <;> simp [httl, UInt32.pos_iff_ne_zero]
    | some c =>
      cases c with
      | option =>
        by_cases hnack : e.type = .subscribeEventgroup ∨ (r.refusedOption e).isSome <;>
          simp [httl, hnack, UInt32.pos_iff_ne_zero]
      | _ => simp [httl, UInt32.pos_iff_ne_zero]

end Entries

/-! ## What a message calls for -/

section Messages

variable {r : Received}

/-- The calls of a message are those of its eventgroup entries. -/
lemma calls_eq : r.calls =
    r.eventgroups.flatMap fun x => (r.checkCalls x.2 x.1).map (x.1, ·) := by
  rw [calls, eventgroups]
  induction r.message.entries.zipIdx with
  | nil => rfl
  | cons x l ih =>
    obtain ⟨entry, i⟩ := x
    rw [List.flatMap_cons, ih]
    cases entry with
    | service _ => rfl
    | eventgroup e =>
      rw [List.filterMap_cons]
      dsimp only
      rw [List.flatMap_cons, processEventgroupentry_eq]

/-- The number of required answers behind some entries: what they have added and taken back behind the
last one that has made it 0. -/
lemma foldl_requiredAfter (l : List (EventgroupentryImpl × HostView)) (n : UInt8) :
    l.foldl (fun n x => r.requiredAfter x.2 x.1 n) n =
      (if l.any fun x => r.clears x.2 x.1 then 0 else n) +
      ((l.rtakeWhile fun x => !r.clears x.2 x.1).map fun x =>
        UInt8.ofNat (r.added x.2 x.1) - UInt8.ofNat (r.takenBack x.2 x.1)).sum := by
  induction l using List.reverseRecOn with
  | nil => simp
  | append_singleton l x ih =>
    rw [List.foldl_append, ih, List.foldl_cons, List.foldl_nil, requiredAfter, List.any_append,
      List.any_cons, List.any_nil, Bool.or_false]
    by_cases hclears : r.clears x.2 x.1
    · rw [if_pos hclears, List.rtakeWhile_concat_neg _ _ _ (by simp [hclears])]
      simp [hclears]
    · rw [if_neg hclears, List.rtakeWhile_concat_pos _ _ _ (by simp [hclears]), List.map_append,
        List.sum_append]
      rw [Bool.eq_false_iff.mpr hclears, Bool.or_false, List.map_singleton, List.sum_singleton,
        UInt8.add_assoc]

/-- The required answers behind the loop over the entries. -/
lemma foldl_required_calls :
    r.calls.foldl required r.message.numberRequiredAcks = r.requiredAcks := by
  rw [calls_eq, List.foldl_flatMap]
  simp only [foldl_required_checkCalls]
  rw [foldl_requiredAfter, requiredAcks, r.counted]

/-- The answers that are contained behind the loop over the entries. -/
lemma countP_calls : r.calls.countP answersAtOnce =
    (r.eventgroups.map fun x => r.answersNow x.2 x.1).sum := by
  rw [calls_eq, List.countP_flatMap]
  simp only [Function.comp_def, countP_checkCalls]

/-- The subscriptions that are pending behind the loop over the entries. -/
lemma length_filterMap_calls : (r.calls.filterMap pendingAnswer).length =
    (r.eventgroups.map fun x => (r.pendingClients x.2 x.1).length).sum := by
  rw [calls_eq, List.filterMap_flatMap, List.length_flatMap]
  simp only [filterMap_checkCalls, List.length_map]

/-- The calls answer an entry or leave it pending. -/
lemma exists_mem_calls_iff {e : EventgroupentryImpl} :
    (∃ c ∈ r.calls, (answersAtOnce c ∨ (pendingAnswer c).isSome) ∧
      c.1.subscription = e.subscription) ↔
    ∃ x ∈ r.eventgroups, x.1.subscription = e.subscription ∧ r.isAnswered x.2 x.1 := by
  have hentry (x : EventgroupentryImpl × HostView) : r.isAnswered x.2 x.1 ↔
      ∃ call ∈ r.checkCalls x.2 x.1,
        answersAtOnce (x.1, call) ∨ (pendingAnswer (x.1, call)).isSome := by
    have hpending : r.pendingClients x.2 x.1 ≠ [] ↔
        ∃ call ∈ r.checkCalls x.2 x.1, (pendingAnswer (x.1, call)).isSome := by
      have hnil : r.pendingClients x.2 x.1 = [] ↔
          ((r.checkCalls x.2 x.1).map (x.1, ·)).filterMap pendingAnswer = [] := by
        rw [filterMap_checkCalls, List.map_eq_nil_iff]
      rw [ne_eq, hnil, List.filterMap_eq_nil_iff]
      simp [Option.isSome_iff_ne_none]
    rw [isAnswered_iff, ← countP_checkCalls, List.countP_pos_iff, hpending]
    simp only [List.mem_map, exists_exists_and_eq_and, and_or_left, exists_or]
  simp only [calls_eq, List.mem_flatMap, List.mem_map, hentry]
  constructor
  · rintro ⟨c, ⟨x, hx, call, hcall, rfl⟩, hanswers, hsubscription⟩
    exact ⟨x, hx, hsubscription, call, hcall, hanswers⟩
  · rintro ⟨x, hx, hsubscription, call, hcall, hanswers⟩
    exact ⟨(x.1, call), ⟨x, hx, call, hcall, rfl⟩, hanswers, hsubscription⟩

/-- The calls balance if the answers are as many as the entries call for. -/
lemma balanced_iff_accountable : r.Balanced ↔ r.Accountable := by
  rw [Balanced, Accountable, foldl_required_calls, countP_calls, length_filterMap_calls, r.counted]
  simp only [exists_mem_calls_iff]

end Messages

/-! ## Main results -/

/-- **When the Subscribe entries of a message are answered.** The response is sent once, after every
order of the answers that were pending and with an answer to each Subscribe entry, exactly if the
answers are as many as the entries call for: by the options they refer to, the check that refuses them
and their endpoints.

**Proof sketch.** What the checks do with the response is known for the check that refuses an entry.
The calls of all entries then contain the answers that are counted here, and require those that the
message calls for; that they balance is what the response needs. -/
theorem answered_iff_accountable (r : Received) : r.Answered ↔ r.Accountable :=
  r.answered_iff_balanced.trans balanced_iff_accountable

/-- An endpoint option of a subscriber. -/
def endpointOption (protocol : LayerFourProtocol) : SdOption :=
  .ipv4
    { length := 9, type := .ip4Endpoint, address := ⟨[192, 168, 0, 2], rfl⟩, protocol, port := 40000 }

/-- A Subscribe with a UDP and a TCP endpoint, for an eventgroup that is not there. -/
def twoOptions : Received where
  message :=
    { MessageImpl.init with
      header := { MessageImpl.init.header with code := 0, length := 60 }
      optionsLength := 24
      entries := [.eventgroup
        { EntryImpl.init with
          type := .subscribeEventgroup
          service := 0x1234
          instance_ := 1
          majorVersion := 1
          ttl := 3
          options1 := [0, 1]
          numOptions1 := 2
          eventgroup := 0x10
          reserved := 0
          counter := 0 }]
      options := [endpointOption .udp, endpointOption .tcp]
      numberRequiredAcks := 2 }
  counted := rfl
  isMulticast := false
  unicastAddress := some ⟨[192, 168, 0, 1], rfl⟩
  host := fun _ =>
    { findEventgroup := none
      isTcpConnected := fun _ => true
      onRemoteSubscription := fun _ => (.error, 0) }

/-- There is one NACK where two answers are required, so the response is never sent. -/
theorem not_answered_twoOptions : ¬ twoOptions.Answered := by
  intro h
  obtain ⟨-, entries, hsent, -⟩ := h (by decide) [] (by decide)
  have hnone : twoOptions.onMessage.sent = [] := by decide
  rw [Runs.run, hnone] at hsent
  cases hsent

end Received

end Vsomeip.Sd
