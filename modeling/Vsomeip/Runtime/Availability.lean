import Mathlib.Data.List.Perm.Subperm
import Vsomeip.Lib.Runs
import Vsomeip.Runtime.Available

set_option relaxedAutoImplicit false
set_option autoImplicit false

/-!
# The availability handlers of an application

`application_impl::on_availability` is called with every report on a service instance. A report that
does not change what `is_available` says of the instance in the reported version is dropped.
Otherwise `available_` is updated, and a call of each handler whose pattern matches is queued. The
handlers are in `availability_`, by service, instance, major and minor version, and the search looks
for each of them by its key: for the minor versions it counts down with a signed number of 32 bits
from the reported one, and for the major version it looks for the reported one and `ANY_MAJOR`.

So a handler that was registered with `DEFAULT_MAJOR` is found for the major version 0 alone, though
`is_available` takes `DEFAULT_MAJOR` for a wildcard; and a reported minor version from 2^31 on is
negative to the search, which then finds no handler but those for `ANY_MINOR`.

A handler is known by the pattern under which it is registered. Whether it was called when it was
registered is left out, since `on_availability` does not read that.

## Main definitions

* `Vsomeip.AvailabilityHandlers` — `availability_`.
* `Vsomeip.Reports` — `available_` with the queued calls and the versions reported last.
* `Vsomeip.Reports.step` — `on_availability` as a step of a state machine.

## Main results

* `Vsomeip.Reports.calls_follow_iff` — the calls follow the availability along exactly the runs in
  which the search finds every handler.
-/

namespace Vsomeip

open Std (TreeMap)

/-- `availability_`: the handler of a pattern. -/
abbrev AvailabilityHandlers (Handler : Type) : Type := Query → Option Handler

/-- A report on a service instance. -/
structure Report where
  service : UInt16
  inst : UInt16
  isAvailable : Bool
  version : Version

/-- The queries for the instance in the reported version. -/
def Report.query (r : Report) : Query :=
  ⟨r.service, r.inst, r.version.major, r.version.minor⟩

/-- A call of an availability handler in `handlers_`. -/
structure AvailabilityCall (Handler : Type) where
  handler : Handler
  service : UInt16
  inst : UInt16
  isAvailable : Bool
deriving DecidableEq

variable {Handler : Type}

namespace AvailabilityHandlers

variable (availability : AvailabilityHandlers Handler) (r : Report)

/-- The minor versions of the loop `for (std::int32_t mi = _minor; mi >= 0; mi--)`. -/
def countDown (minor : UInt32) : List UInt32 :=
  (List.range (minor.toInt32.toInt + 1).toNat).reverse.map UInt32.ofNat

/-- The patterns that `find_matching_handler` looks for. -/
def versionPatterns (service inst : UInt16) : List Query :=
  [r.version.major, anyMajor].flatMap fun major =>
    (countDown r.version.minor ++ [anyMinor]).map fun minor => ⟨service, inst, major, minor⟩

/-- The patterns that the search in `on_availability` looks for. -/
def patterns : List Query :=
  [r.service, anyService].flatMap fun service =>
    [r.inst, anyInstance].flatMap fun inst => versionPatterns r service inst

/-- `its_handlers` in `on_availability`. -/
def findHandlers : List Handler :=
  (patterns r).filterMap availability

/-- The call of a handler. -/
def call (handler : Handler) : AvailabilityCall Handler :=
  ⟨handler, r.service, r.inst, r.isAvailable⟩

end AvailabilityHandlers

/-- What `on_availability` does with `available_`. -/
def Available.update (available : Available) (r : Report) : Available :=
  if r.isAvailable then
    available.entry r.service r.inst r.version.major fun _ => r.version.minor
  else match available[r.service]? with
    | none => available
    | some instances => match instances[r.inst]? with
      | none => available
      | some majors =>
        if majors[r.version.major]? = some r.version.minor
        then available.insert r.service (instances.erase r.inst) else available

/-- `available_`, the calls in `handlers_`, and the version in which each instance was reported to be
available, unless it was reported to be unavailable since. -/
structure Reports (Handler : Type) where
  available : Available
  queued : List (AvailabilityCall Handler)
  reported : UInt16 → UInt16 → Option Version

namespace Reports

/-- Nothing was reported. -/
def init : Reports Handler where
  available := ∅
  queued := []
  reported := fun _ _ => none

/-- The report changes what `is_available` says. -/
def Changes (s : Reports Handler) (r : Report) : Prop :=
  s.available.isAvailable r.query ≠ r.isAvailable

instance (s : Reports Handler) (r : Report) : Decidable (s.Changes r) :=
  inferInstanceAs (Decidable (_ ≠ _))

/-- `on_availability`. -/
def step (availability : AvailabilityHandlers Handler) (s : Reports Handler) (r : Report) :
    Reports Handler :=
  let reported := fun service inst => if service = r.service ∧ inst = r.inst
    then (if r.isAvailable then some r.version else none) else s.reported service inst
  if s.Changes r then
    { available := s.available.update r
      queued := s.queued ++ (availability.findHandlers r).map (AvailabilityHandlers.call r)
      reported }
  else { s with reported }

/-- Reports are on single instances in single versions, and an instance is reported with one version
at a time. -/
structure OneVersion (s : Reports Handler) (r : Report) : Prop where
  service : r.service ≠ anyService
  inst : r.inst ≠ anyInstance
  major : r.version.major ≠ anyMajor
  minor : r.version.minor ≠ anyMinor
  same : ∀ version, s.reported r.service r.inst = some version → version = r.version

/-- The calls that a report should queue: one for each handler whose pattern matches. -/
def IsCalls (availability : AvailabilityHandlers Handler) (r : Report)
    (calls : List (AvailabilityCall Handler)) : Prop :=
  ∃ patterns : List Query, patterns.Nodup ∧
    (∀ q, q ∈ patterns ↔ (availability q).isSome ∧
      q.Matches r.service r.inst r.version.major r.version.minor) ∧
    calls.Perm ((patterns.filterMap availability).map (AvailabilityHandlers.call r))

/-- What a report should do: `is_available` is true of an instance in a version from when it was
reported to be available, and the right calls are queued if that changes. -/
def Follows (availability : AvailabilityHandlers Handler) (s : Reports Handler) (r : Report) : Prop :=
  (∀ service inst, service ≠ anyService → inst ≠ anyInstance →
    match (s.step availability r).reported service inst with
    | some version => (s.step availability r).available.isAvailable
        ⟨service, inst, version.major, version.minor⟩ = true
    | none => ∀ major minor,
        (s.step availability r).available.isAvailable ⟨service, inst, major, minor⟩ = false) ∧
  ∃ calls, (s.step availability r).queued = s.queued ++ calls ∧
    (if (s.step availability r).available.isAvailable r.query = s.available.isAvailable r.query
      then calls = [] else IsCalls availability r calls)

/-- The search finds all handlers for a report that changes something: none that matches was
registered with `DEFAULT_MAJOR` if that is not the reported major version, and if the reported minor
version is 2^31 or more, all that match were registered with `ANY_MINOR`. -/
def Found (availability : AvailabilityHandlers Handler) (s : Reports Handler) (r : Report) : Prop :=
  s.Changes r → ∀ q, (availability q).isSome →
    q.Matches r.service r.inst r.version.major r.version.minor →
    (q.major = defaultMajor → r.version.major = defaultMajor) ∧
    (r.version.minor.toNat < 2 ^ 31 ∨ q.minor = anyMinor)

end Reports

/-! ## The search for handlers -/

namespace AvailabilityHandlers

variable {availability : AvailabilityHandlers Handler} {r : Report}

/-- The loop starts below 0 if the reported minor version is 2^31 or more. -/
lemma mem_countDown {minor : UInt32} (mi : UInt32) :
    mi ∈ countDown minor ↔ minor.toNat < 2 ^ 31 ∧ mi ≤ minor := by
  have hlt := minor.toNat_lt
  have hint : minor.toInt32.toInt =
      if 2 * minor.toNat < 2 ^ 32 then (minor.toNat : ℤ) else minor.toNat - (2 ^ 32 : ℕ) :=
    BitVec.toInt_eq_toNat_cond minor.toBitVec
  rw [countDown, List.mem_map]
  simp only [List.mem_reverse, List.mem_range]
  constructor
  · rintro ⟨n, hn, rfl⟩
    rw [hint] at hn
    split at hn
    · have hn' : n < 2 ^ 32 := by omega
      rw [UInt32.le_iff_toNat_le, UInt32.toNat_ofNat_of_lt' hn']
      omega
    · omega
  · rintro ⟨hminor, hle⟩
    rw [UInt32.le_iff_toNat_le] at hle
    refine ⟨mi.toNat, ?_, UInt32.ofNat_toNat⟩
    rw [hint, if_pos (by omega)]
    omega

/-- No minor version is counted twice. -/
lemma nodup_countDown (minor : UInt32) : (countDown minor).Nodup := by
  refine List.Nodup.map_on (fun m hm n hn h => ?_) (List.nodup_reverse.mpr List.nodup_range)
  have hlt := minor.toNat_lt
  have hint : minor.toInt32.toInt =
      if 2 * minor.toNat < 2 ^ 32 then (minor.toNat : ℤ) else minor.toNat - (2 ^ 32 : ℕ) :=
    BitVec.toInt_eq_toNat_cond minor.toBitVec
  rw [List.mem_reverse, List.mem_range, hint] at hm hn
  have h := congrArg UInt32.toNat h
  split at hm
  · rwa [UInt32.toNat_ofNat_of_lt' (show m < 2 ^ 32 by omega),
      UInt32.toNat_ofNat_of_lt' (show n < 2 ^ 32 by omega)] at h
  · omega

/-- The patterns that the search looks for. -/
lemma mem_patterns_iff (q : Query) : q ∈ patterns r ↔
    q.MatchesService r.service ∧ q.MatchesInstance r.inst ∧
    (q.major = anyMajor ∨ q.major = r.version.major) ∧
    (q.minor = anyMinor ∨ r.version.minor.toNat < 2 ^ 31 ∧ q.minor ≤ r.version.minor) := by
  obtain ⟨service, inst, major, minor⟩ := q
  simp only [patterns, versionPatterns, List.mem_flatMap, List.mem_cons, List.not_mem_nil, or_false,
    List.mem_map, List.mem_append, mem_countDown, Query.mk.injEq]
  constructor
  · rintro ⟨s, hs, i, hi, ma, hma, mi, hmi, rfl, rfl, rfl, rfl⟩
    exact ⟨hs.symm, hi.symm, hma.symm, hmi.symm⟩
  · rintro ⟨hs, hi, hma, hmi⟩
    exact ⟨service, hs.symm, inst, hi.symm, major, hma.symm, minor, hmi.symm, rfl, rfl, rfl, rfl⟩

/-- Two searches find nothing twice if what they find tells them apart. -/
lemma nodup_flatMap_pair {α β : Type} {f : α → List β} (g : β → α) (hg : ∀ x, ∀ y ∈ f x, g y = x)
    (hf : ∀ x, (f x).Nodup) {a b : α} (hab : a ≠ b) : ([a, b].flatMap f).Nodup := by
  refine List.nodup_flatMap.mpr ⟨fun x _ => hf x, ?_⟩
  refine List.pairwise_pair.mpr (List.disjoint_left.mpr ?_)
  exact fun y hya hyb => hab ((hg a y hya).symm.trans (hg b y hyb))

/-- No pattern is looked for twice. -/
lemma nodup_patterns (hservice : r.service ≠ anyService) (hinst : r.inst ≠ anyInstance)
    (hmajor : r.version.major ≠ anyMajor) : (patterns r).Nodup := by
  have hminors : (countDown r.version.minor ++ [anyMinor]).Nodup := by
    refine (nodup_countDown _).append (List.nodup_singleton _) ?_
    rw [List.disjoint_singleton, mem_countDown]
    rintro ⟨hlt, hle⟩
    rw [UInt32.le_iff_toNat_le] at hle
    exact absurd (Nat.lt_of_le_of_lt hle hlt) (by decide)
  have hversions (service inst : UInt16) : (versionPatterns r service inst).Nodup := by
    refine nodup_flatMap_pair Query.major (fun major q hq => ?_) (fun major => ?_) hmajor
    · obtain ⟨_, -, rfl⟩ := List.mem_map.mp hq
      rfl
    · exact hminors.map fun m n h => (Query.mk.inj h).2.2.2
  refine nodup_flatMap_pair Query.service (fun service q hq => ?_) (fun service => ?_) hservice
  · simp only [versionPatterns, List.mem_flatMap, List.mem_map] at hq
    obtain ⟨_, -, _, -, _, -, rfl⟩ := hq
    rfl
  · refine nodup_flatMap_pair Query.inst (fun inst q hq => ?_) (hversions service) hinst
    simp only [versionPatterns, List.mem_flatMap, List.mem_map] at hq
    obtain ⟨_, -, _, -, rfl⟩ := hq
    rfl

end AvailabilityHandlers

namespace Reports

/-! ## The availability -/

section Available

variable {available : Available} {service inst : UInt16} {v : Version}

/-- The major versions of an instance. -/
def majorsOf (available : Available) (service inst : UInt16) : Option Majors :=
  available[service]?.bind fun instances => instances[inst]?

/-- An instance is available in one version. -/
def IsSingle (v : Version) (majors : Majors) : Prop :=
  ∀ major, majors[major]? = if v.major = major then some v.minor else none

/-- The availability of a service and an instance that are no wildcards. -/
lemma isAvailable_eq (hservice : service ≠ anyService) (hinst : inst ≠ anyInstance) (major : UInt8)
    (minor : UInt32) : available.isAvailable ⟨service, inst, major, minor⟩ =
      ((majorsOf available service inst).map
        (Available.checkMajorMinor ⟨service, inst, major, minor⟩)).getD false := by
  rw [Available.isAvailable, findOrAny, majorsOf]
  cases available[service]? with
  | none => simp [hservice]
  | some instances =>
    dsimp only
    rw [Available.checkInstances, findOrAny, Option.bind_some]
    cases instances[inst]? with
    | none => simp [hinst]
    | some majors => rfl

/-- The only version of an instance matches itself. -/
lemma checkMajorMinor_of_isSingle {majors : Majors} (h : IsSingle v majors) :
    Available.checkMajorMinor ⟨service, inst, v.major, v.minor⟩ majors = true := by
  rw [Available.checkMajorMinor, findOrAny_iff]
  refine ⟨v.major, v.minor, by rw [h, if_pos rfl], .inr rfl, fun _ => rfl, ?_⟩
  exact decide_eq_true (.inr (UInt32.le_refl _))

/-- The major versions after an entry is made. -/
lemma majorsOf_entry {s i : UInt16} {major : UInt8} {f : UInt32 → UInt32} :
    majorsOf (available.entry service inst major f) s i = if s = service ∧ i = inst
      then some (index ((majorsOf available service inst).getD default) major f)
      else majorsOf available s i := by
  rw [majorsOf, Available.entry, getElem?_index]
  by_cases hs : s = service
  · subst hs
    rw [if_pos rfl, Option.bind_some, getElem?_index, TreeMap.getD_eq_getD_getElem?]
    by_cases hi : i = inst
    · subst hi
      rw [if_pos rfl, if_pos ⟨rfl, rfl⟩, TreeMap.getD_eq_getD_getElem?, majorsOf]
      cases available[s]? with
      | none => rw [Option.getD_none, Option.bind_none]; rfl
      | some instances => rfl
    · rw [if_neg (Ne.symm hi), if_neg fun hand => hi hand.2, majorsOf,
        TreeMap.getD_eq_getD_getElem?]
      cases available[s]? with
      | none => exact (TreeMap.getElem?_emptyc : (∅ : Instances)[i]? = none)
      | some instances => rfl
  · rw [if_neg (Ne.symm hs), if_neg fun hand => hs hand.1, majorsOf]

/-- An instance that is reported to be unavailable in its version is erased. -/
lemma majorsOf_update {r : Report} (hr : r.isAvailable = false) {majors : Majors}
    (hmajors : majorsOf available r.service r.inst = some majors) (hsingle : IsSingle r.version majors)
    (s i : UInt16) : majorsOf (available.update r) s i =
      if s = r.service ∧ i = r.inst then none else majorsOf available s i := by
  obtain ⟨instances, hservice, hinst⟩ := Option.bind_eq_some_iff.mp hmajors
  have hupdate : available.update r = available.insert r.service (instances.erase r.inst) := by
    rw [Available.update, if_neg (by simp [hr])]
    simp only [hservice, hinst]
    rw [if_pos (by rw [hsingle, if_pos rfl])]
  rw [hupdate, majorsOf, TreeMap.getElem?_insert]
  by_cases hs : s = r.service
  · subst hs
    rw [if_pos (Std.LawfulEqCmp.compare_eq_iff_eq.mpr rfl), Option.bind_some,
      TreeMap.getElem?_erase, majorsOf, hservice, Option.bind_some]
    by_cases hi : i = r.inst
    · rw [if_pos (Std.LawfulEqCmp.compare_eq_iff_eq.mpr hi.symm), if_pos ⟨rfl, hi⟩]
    · rw [if_neg fun h => hi (Std.LawfulEqCmp.compare_eq_iff_eq.mp h).symm,
        if_neg fun hand => hi hand.2]
  · rw [if_neg fun h => hs (Std.LawfulEqCmp.compare_eq_iff_eq.mp h).symm,
      if_neg fun hand => hs hand.1, majorsOf]

end Available

/-- The map has the version in which an instance was reported to be available, and no other one. -/
def Inv (s : Reports Handler) : Prop :=
  ∀ service inst, service ≠ anyService → inst ≠ anyInstance →
    match s.reported service inst with
    | some v => ∃ majors, majorsOf s.available service inst = some majors ∧ IsSingle v majors
    | none => majorsOf s.available service inst = none

section Step

variable {availability : AvailabilityHandlers Handler} {s : Reports Handler} {r : Report}

/-- The invariant holds at the start. -/
lemma inv_init : (init : Reports Handler).Inv := by
  intro service inst _ _
  change (∅ : Available)[service]?.bind _ = none
  rw [TreeMap.getElem?_emptyc, Option.bind_none]

/-- What `is_available` says of an instance in the version in which it is reported. -/
lemma Inv.isAvailable_query (hs : s.Inv) (hr : s.OneVersion r) :
    s.available.isAvailable r.query = (s.reported r.service r.inst).isSome := by
  rw [Report.query, isAvailable_eq hr.service hr.inst]
  have hself := hs r.service r.inst hr.service hr.inst
  cases hreported : s.reported r.service r.inst with
  | none =>
    rw [hreported] at hself
    rw [hself]
    rfl
  | some v =>
    rw [hreported] at hself
    obtain ⟨majors, hmajors, hsingle⟩ := hself
    obtain rfl := hr.same v hreported
    rw [hmajors, Option.map_some, Option.getD_some, checkMajorMinor_of_isSingle hsingle]
    rfl

/-- What is reported after one more report. -/
lemma reported_step (s : Reports Handler) (r : Report) : (s.step availability r).reported =
    fun service inst => if service = r.service ∧ inst = r.inst
      then (if r.isAvailable then some r.version else none) else s.reported service inst := by
  rw [step]
  split <;> rfl

/-- **Each report keeps the map right.** -/
lemma Inv.step (hs : s.Inv) (hr : s.OneVersion r) : (s.step availability r).Inv := by
  have hquery := hs.isAvailable_query hr
  have hself := hs r.service r.inst hr.service hr.inst
  intro service inst hservice hinst
  have hother := hs service inst hservice hinst
  rw [reported_step]
  dsimp only
  by_cases hchanges : s.Changes r
  · have havailable : (s.step availability r).available = s.available.update r := by
      rw [Reports.step, if_pos hchanges]
    rw [havailable]
    rw [Changes, hquery] at hchanges
    cases hflag : r.isAvailable with
    | true =>
      -- it was not available, and is entered
      have hnone : s.reported r.service r.inst = none := by
        rw [hflag] at hchanges
        simpa using hchanges
      rw [hnone] at hself
      rw [Available.update, if_pos hflag, majorsOf_entry]
      by_cases hkey : service = r.service ∧ inst = r.inst
      · rw [if_pos hkey, if_pos hkey, hself]
        refine ⟨_, rfl, fun major => ?_⟩
        rw [getElem?_index]
        split
        · rfl
        · exact TreeMap.getElem?_emptyc
      · rw [if_neg hkey, if_neg hkey]
        exact hother
    | false =>
      -- it was available, and is erased
      obtain ⟨v, hsome⟩ : ∃ v, s.reported r.service r.inst = some v := by
        rw [hflag] at hchanges
        exact Option.ne_none_iff_exists'.mp (by simpa using hchanges)
      obtain rfl := hr.same v hsome
      rw [hsome] at hself
      obtain ⟨majors, hmajors, hsingle⟩ := hself
      rw [majorsOf_update hflag hmajors hsingle]
      by_cases hkey : service = r.service ∧ inst = r.inst
      · rw [if_pos hkey, if_pos hkey]
        rfl
      · rw [if_neg hkey, if_neg hkey]
        exact hother
  · have havailable : (s.step availability r).available = s.available := by
      rw [Reports.step, if_neg hchanges]
    rw [havailable]
    rw [Changes, not_not, hquery] at hchanges
    by_cases hkey : service = r.service ∧ inst = r.inst
    · obtain ⟨rfl, rfl⟩ := hkey
      rw [if_pos ⟨rfl, rfl⟩]
      have hsame : (if r.isAvailable then some r.version else none) =
          s.reported r.service r.inst := by
        cases hreported : s.reported r.service r.inst with
        | none => rw [← hchanges, hreported]; rfl
        | some v => rw [← hchanges, hreported, hr.same v hreported]; rfl
      rw [hsame]
      exact hself
    · rw [if_neg hkey]
      exact hother

/-- A report changes something exactly if it is about the availability that the instance does not
have. -/
lemma Inv.isAvailable_step (hs : s.Inv) (hr : s.OneVersion r) :
    (s.step availability r).available.isAvailable r.query = r.isAvailable := by
  have hinv : (s.step availability r).Inv := hs.step hr
  have hstep := hinv r.service r.inst hr.service hr.inst
  rw [reported_step] at hstep
  dsimp only at hstep
  rw [if_pos ⟨rfl, rfl⟩] at hstep
  rw [Report.query, isAvailable_eq hr.service hr.inst]
  cases hflag : r.isAvailable with
  | true =>
    rw [hflag] at hstep
    obtain ⟨majors, hmajors, hsingle⟩ := hstep
    rw [hmajors, Option.map_some, Option.getD_some, checkMajorMinor_of_isSingle hsingle]
  | false =>
    rw [hflag] at hstep
    rw [hstep]
    rfl

/-! ## The calls -/

/-- A pattern that matches is looked for, unless its major version is the default one or the reported
minor version is negative to the search. -/
lemma mem_patterns_of_matches {q : Query}
    (hq : q.Matches r.service r.inst r.version.major r.version.minor) :
    q ∈ AvailabilityHandlers.patterns r ↔
      (q.major = defaultMajor → r.version.major = defaultMajor) ∧
      (r.version.minor.toNat < 2 ^ 31 ∨ q.minor = anyMinor) := by
  obtain ⟨hservice, hinst, hmajor, hminor⟩ := hq
  rw [AvailabilityHandlers.mem_patterns_iff, and_iff_right hservice, and_iff_right hinst]
  refine and_congr ?_ ?_
  · constructor
    · rintro (hany | hsame) hdefault
      · rw [hany] at hdefault
        exact absurd hdefault (by decide)
      · rw [← hsame, hdefault]
    · intro h
      obtain (hany | hdefault) | hsame := hmajor
      · exact .inl hany
      · exact .inr (hdefault.trans (h hdefault).symm)
      · exact .inr hsame
  · have hle : q.minor ≠ anyMinor → q.minor ≤ r.version.minor := by
      intro hne
      obtain (hany | hdefault) | hle := hminor
      · exact absurd hany hne
      · rw [hdefault, UInt32.le_iff_toNat_le]
        exact Nat.zero_le _
      · exact hle
    by_cases hany : q.minor = anyMinor
    · exact iff_of_true (.inl hany) (.inr hany)
    · rw [or_iff_right hany, or_iff_left hany, and_iff_left (hle hany)]

/-- What is looked for matches. -/
lemma matches_of_mem_patterns {q : Query} (hq : q ∈ AvailabilityHandlers.patterns r) :
    q.Matches r.service r.inst r.version.major r.version.minor := by
  obtain ⟨hservice, hinst, hmajor, hminor⟩ := (AvailabilityHandlers.mem_patterns_iff q).mp hq
  exact ⟨hservice, hinst, hmajor.imp_left .inl, hminor.imp .inl And.right⟩

/-- Patterns that all have a verdict. -/
lemma length_filterMap {patterns : List Query} (h : ∀ q ∈ patterns, (availability q).isSome) :
    (patterns.filterMap availability).length = patterns.length := by
  rw [List.length_filterMap_eq_countP, List.countP_eq_length]
  exact h

/-- **The calls are the right ones** exactly if every pattern that matches is looked for. -/
lemma isCalls_iff (hr : s.OneVersion r) : IsCalls availability r
      ((availability.findHandlers r).map (AvailabilityHandlers.call r)) ↔
    ∀ q, (availability q).isSome → q.Matches r.service r.inst r.version.major r.version.minor →
      q ∈ AvailabilityHandlers.patterns r := by
  have hnodup := AvailabilityHandlers.nodup_patterns hr.service hr.inst hr.major
  set found := (AvailabilityHandlers.patterns r).filter fun q => (availability q).isSome with hfound
  have hmem (q : Query) : q ∈ found ↔
      q ∈ AvailabilityHandlers.patterns r ∧ (availability q).isSome := List.mem_filter
  have hcalls : availability.findHandlers r = found.filterMap availability := by
    rw [AvailabilityHandlers.findHandlers, hfound, List.filterMap_filter]
    refine List.filterMap_congr fun q _ => ?_
    cases availability q <;> rfl
  rw [hcalls]
  constructor
  · rintro ⟨patterns, hnodup', hpatterns, hperm⟩ q hq hmatches
    -- the handlers that are found are some of those that match, and they are as many
    have hsub : found ⊆ patterns := fun q hq =>
      (hpatterns q).mpr ⟨((hmem q).mp hq).2, matches_of_mem_patterns ((hmem q).mp hq).1⟩
    have hlength := hperm.length_eq
    rw [List.length_map, List.length_map, length_filterMap fun q hq => ((hmem q).mp hq).2,
      length_filterMap fun q hq => ((hpatterns q).mp hq).1] at hlength
    have hsame := (List.subperm_of_subset (hnodup.filter _) hsub).perm_of_length_le hlength.ge
    exact ((hmem q).mp (hsame.mem_iff.mpr ((hpatterns q).mpr ⟨hq, hmatches⟩))).1
  · intro h
    refine ⟨found, hnodup.filter _, fun q => ?_, List.Perm.refl _⟩
    rw [hmem, and_comm]
    exact and_congr_right fun hq => ⟨matches_of_mem_patterns, h q hq⟩

/-- What a report does is right exactly if the search finds all handlers. -/
lemma Inv.follows_iff (hs : s.Inv) (hr : s.OneVersion r) :
    Follows availability s r ↔ Found availability s r := by
  have havailable : ∀ service inst, service ≠ anyService → inst ≠ anyInstance →
      match (s.step availability r).reported service inst with
      | some version => (s.step availability r).available.isAvailable
          ⟨service, inst, version.major, version.minor⟩ = true
      | none => ∀ major minor,
          (s.step availability r).available.isAvailable ⟨service, inst, major, minor⟩ = false := by
    intro service inst hservice hinst
    have hinv : (s.step availability r).Inv := hs.step hr
    have hstep := hinv service inst hservice hinst
    cases hreported : (s.step availability r).reported service inst with
    | none =>
      rw [hreported] at hstep
      intro major minor
      rw [isAvailable_eq hservice hinst, hstep]
      rfl
    | some v =>
      rw [hreported] at hstep
      obtain ⟨majors, hmajors, hsingle⟩ := hstep
      change Available.isAvailable _ _ = true
      rw [isAvailable_eq hservice hinst, hmajors, Option.map_some, Option.getD_some,
        checkMajorMinor_of_isSingle hsingle]
  rw [Follows, and_iff_right havailable, hs.isAvailable_step hr, Found]
  by_cases hchanges : s.Changes r
  · have hqueued : (s.step availability r).queued =
        s.queued ++ (availability.findHandlers r).map (AvailabilityHandlers.call r) := by
      rw [Reports.step, if_pos hchanges]
    have hfound : (∀ q, (availability q).isSome →
        q.Matches r.service r.inst r.version.major r.version.minor →
        (q.major = defaultMajor → r.version.major = defaultMajor) ∧
        (r.version.minor.toNat < 2 ^ 31 ∨ q.minor = anyMinor)) ↔
          IsCalls availability r ((availability.findHandlers r).map (AvailabilityHandlers.call r)) := by
      rw [isCalls_iff hr]
      exact forall₂_congr fun q _ => forall_congr' fun hq => (mem_patterns_of_matches hq).symm
    have hne : r.isAvailable ≠ s.available.isAvailable r.query := fun h => hchanges h.symm
    rw [imp_iff_right hchanges, hfound, hqueued]
    constructor
    · rintro ⟨calls, hsame, hcalls⟩
      obtain rfl := List.append_cancel_left hsame
      rwa [if_neg hne] at hcalls
    · exact fun h => ⟨_, rfl, by rwa [if_neg hne]⟩
  · have hqueued : (s.step availability r).queued = s.queued := by
      rw [Reports.step, if_neg hchanges]
    refine iff_of_true ⟨[], by rw [hqueued, List.append_nil], ?_⟩ fun h => absurd h hchanges
    rw [Changes, not_not] at hchanges
    rw [if_pos hchanges.symm]

end Step

/-! ## Main results -/

/-- **The calls follow the availability**: in a run in which every instance is reported with one version
at a time, each report changes the availability as it says and queues one call of each handler that
matches if that is a change, exactly if the search finds all of them at every report.

**Proof sketch.** The map has exactly the versions that were reported last, so that a report is a
change if it is about the availability that the instance does not have. The patterns that the search
looks for are different ones and match, so the calls are right exactly if no pattern is missing. -/
theorem calls_follow_iff (availability : AvailabilityHandlers Handler) (reports : List Report)
    (hreports : Runs.Along (step availability) OneVersion init reports) :
    Runs.Along (step availability) (Follows availability) init reports ↔
      Runs.Along (step availability) (Found availability) init reports :=
  @Runs.along_iff _ _ (step availability) Inv OneVersion (Found availability) (Follows availability)
    (fun hs hr hfound => ⟨hs.step hr, (hs.follows_iff hr).mpr hfound⟩)
    (fun hs hr hnot h => hnot ((hs.follows_iff hr).mp h)) reports init inv_init hreports

/-- One handler, for all service instances and minor versions. -/
def handlerFor (major : UInt8) : AvailabilityHandlers Unit := fun q =>
  if q = ⟨anyService, anyInstance, major, anyMinor⟩ then some () else none

/-- A report on an instance in the version 1.0. -/
def report (isAvailable : Bool) : Report := ⟨0x1111, 1, isAvailable, ⟨1, 0⟩⟩

/-- The reports of the example have one version at a time. -/
lemma oneVersion_report {s : Reports Handler} {isAvailable : Bool}
    (h : ∀ v, s.reported 0x1111 1 = some v → v = ⟨1, 0⟩) : s.OneVersion (report isAvailable) :=
  { service := by change (0x1111 : UInt16) ≠ _; decide
    inst := by change (1 : UInt16) ≠ _; decide
    major := by change (1 : UInt8) ≠ _; decide
    minor := by change (0 : UInt32) ≠ _; decide
    same := h }

/-- The handler of the example finds its service. -/
lemma found_handlerFor {s : Reports Unit} {isAvailable : Bool} :
    Found (handlerFor anyMajor) s (report isAvailable) := by
  intro _ q hq _
  rw [handlerFor] at hq
  split at hq
  · rename_i hsame
    subst hsame
    exact ⟨fun h => absurd h (by decide), .inr rfl⟩
  · cases hq

/-- An instance becomes available and unavailable, and the handler for all versions is called. -/
theorem follows_along_any :
    Runs.Along (step (handlerFor anyMajor)) (Follows (handlerFor anyMajor)) init
      [report true, report false] :=
  (calls_follow_iff (handlerFor anyMajor) [report true, report false]
    ⟨oneVersion_report (fun v h => by cases h),
      oneVersion_report fun v h => (Option.some.inj h).symm, trivial⟩).mpr
    ⟨found_handlerFor, found_handlerFor, trivial⟩

/-- A handler that was registered with `DEFAULT_MAJOR` is not called. -/
theorem not_follows_default :
    Runs.Along (step (handlerFor defaultMajor)) OneVersion init [report true] ∧
    ¬ Runs.Along (step (handlerFor defaultMajor)) (Follows (handlerFor defaultMajor)) init
      [report true] := by
  have hone : (init : Reports Unit).OneVersion (report true) :=
    oneVersion_report fun v h => by cases h
  refine ⟨⟨hone, trivial⟩, fun h => ?_⟩
  have hfound := (inv_init.follows_iff hone).mp h.1 (by decide)
    ⟨anyService, anyInstance, defaultMajor, anyMinor⟩ (by decide)
    ⟨.inl rfl, .inl rfl, .inl (.inr rfl), .inl (.inl rfl)⟩
  exact absurd (hfound.1 rfl) (by decide)

end Reports

end Vsomeip
