import Std.Data.TreeMap
import Mathlib.Data.List.Basic
import Vsomeip.Routing.RoutingInfo

set_option relaxedAutoImplicit false
set_option autoImplicit false

/-!
# The available service instances of an application

An application keeps in `available_` (`application_impl.cpp`) which service instances are available
in which versions: for each service, instance and major version the minor version. There are two
queries, with wildcards for each of the four arguments. `is_available` says whether something
matches, and looks for the arguments in the map before it takes them for wildcards. `are_available`
also collects what matches, in four passes over a map that it fills: services, instances, major
versions and minor versions. The third and the fourth pass go through all instances (and all major
versions) that the service has, and not through those that the passes before have found.

`map[key]`, which adds the key if it is not there, is `index` here.

## Main definitions

* `Vsomeip.Available` — `available_t`.
* `Vsomeip.Available.isAvailable`, `Vsomeip.Available.areAvailable` — the queries.

## Main results

* `Vsomeip.Available.isAvailable_iff`, `Vsomeip.Available.areAvailable_spec` — what the queries find.
* `Vsomeip.Available.agree_iff` — they agree exactly if the instances and the major versions need not
  be told apart, and no key of the map stands in the way of a wildcard.
-/

namespace Vsomeip

open Std (TreeMap)

/-- `ANY_SERVICE`. -/
def anyService : UInt16 := 0xFFFF

/-- `ANY_MAJOR`. -/
def anyMajor : UInt8 := 0xFF

/-- `DEFAULT_MAJOR`. -/
def defaultMajor : UInt8 := 0

/-- `ANY_MINOR`. -/
def anyMinor : UInt32 := 0xFFFFFFFF

/-- `DEFAULT_MINOR`. -/
def defaultMinor : UInt32 := 0

section Index

variable {α β : Type} [Ord α]

/-- `map[key]`, with what is done with the reference. -/
def index [Inhabited β] (t : TreeMap α β) (k : α) (f : β → β) : TreeMap α β :=
  t.insert k (f (t.getD k default))

/-- A search for a key, and if it is not there but is a wildcard, among all. -/
def findOrAny (t : TreeMap α β) (k : α) (isAny : Bool) (check : β → Bool) : Bool :=
  match t[k]? with
  | some found => check found
  | none => isAny && t.toList.any fun it => check it.2

variable [Std.TransOrd α] [Std.LawfulEqOrd α] {t : TreeMap α β} {k k' : α}

/-- A map after the value of a key is changed. -/
lemma getElem?_index [DecidableEq α] [Inhabited β] {f : β → β} : (index t k f)[k']? =
    if k = k' then some (f (t.getD k default)) else t[k']? := by
  simp only [index, TreeMap.getElem?_insert, Std.LawfulEqCmp.compare_eq_iff_eq]

/-- The search finds what it may look at: the key alone, if it is there. -/
lemma findOrAny_iff {isAny : Bool} {check : β → Bool} : findOrAny t k isAny check = true ↔
    ∃ k' v, t[k']? = some v ∧ (isAny = true ∨ k = k') ∧ (k ∈ t → k' = k) ∧ check v = true := by
  rw [findOrAny]
  split
  · rename_i found hk
    have hmem : k ∈ t := TreeMap.mem_iff_isSome_getElem?.mpr (by rw [hk]; rfl)
    constructor
    · exact fun h => ⟨k, found, hk, .inr rfl, fun _ => rfl, h⟩
    · rintro ⟨k', v, hv, -, hsame, h⟩
      obtain rfl := hsame hmem
      rw [hk] at hv
      exact Option.some.inj hv ▸ h
  · rename_i hk
    have hmem : k ∉ t := fun h => by
      rw [TreeMap.mem_iff_isSome_getElem?, hk] at h
      cases h
    rw [Bool.and_eq_true, List.any_eq_true]
    constructor
    · rintro ⟨hany, ⟨k', v⟩, hv, h⟩
      exact ⟨k', v, TreeMap.mem_toList_iff_getElem?_eq_some.mp hv, .inl hany,
        fun h => absurd h hmem, h⟩
    · rintro ⟨k', v, hv, hany | rfl, -, h⟩
      · exact ⟨hany, ⟨k', v⟩, TreeMap.mem_toList_iff_getElem?_eq_some.mpr hv, h⟩
      · rw [hk] at hv
        cases hv

end Index

/-- What a loop does is what one of its rounds does, for a relation that can be put together. -/
lemma foldl_rel {α β σ ι : Type} {R : (α → β → Prop) → σ → σ → Prop}
    (hrefl : ∀ s, R (fun _ _ => False) s s)
    (htrans : ∀ {P Q s s' s''}, R P s s' → R Q s' s'' → R (fun a b => P a b ∨ Q a b) s s'')
    {f : σ → ι → σ} {P : ι → α → β → Prop} {l : List ι}
    (h : ∀ x ∈ l, ∀ s, R (P x) s (f s x)) (s : σ) :
    R (fun a b => ∃ x ∈ l, P x a b) s (l.foldl f s) := by
  induction l generalizing s with
  | nil => simpa using hrefl s
  | cons x l ih =>
    have hx := h x List.mem_cons_self s
    have hl := ih (fun y hy => h y (List.mem_cons_of_mem x hy)) (f s x)
    simpa [List.exists_mem_cons_iff] using htrans hx hl

/-- The minor version of each available major version of an instance. -/
abbrev Majors : Type := TreeMap UInt8 UInt32

/-- The available instances of a service. -/
abbrev Instances : Type := TreeMap UInt16 Majors

/-- `available_t`. -/
abbrev Available : Type := TreeMap UInt16 Instances

/-- The arguments of a query. -/
structure Query where
  service : UInt16
  inst : UInt16
  major : UInt8
  minor : UInt32
deriving DecidableEq

namespace Query

variable (q : Query)

/-- The argument is the service or a wildcard. -/
def MatchesService (service : UInt16) : Prop :=
  q.service = anyService ∨ q.service = service

/-- The argument is the instance or a wildcard. -/
def MatchesInstance (inst : UInt16) : Prop :=
  q.inst = anyInstance ∨ q.inst = inst

/-- The argument is the major version or a wildcard. -/
def MatchesMajor (major : UInt8) : Prop :=
  (q.major = anyMajor ∨ q.major = defaultMajor) ∨ q.major = major

/-- The argument is not above the minor version, or a wildcard. -/
def MatchesMinor (minor : UInt32) : Prop :=
  (q.minor = anyMinor ∨ q.minor = defaultMinor) ∨ q.minor ≤ minor

instance (service : UInt16) : Decidable (q.MatchesService service) :=
  inferInstanceAs (Decidable (_ ∨ _))

instance (inst : UInt16) : Decidable (q.MatchesInstance inst) :=
  inferInstanceAs (Decidable (_ ∨ _))

instance (major : UInt8) : Decidable (q.MatchesMajor major) :=
  inferInstanceAs (Decidable ((_ ∨ _) ∨ _))

instance (minor : UInt32) : Decidable (q.MatchesMinor minor) :=
  inferInstanceAs (Decidable ((_ ∨ _) ∨ _))

/-- The argument for the major version is a wildcard. -/
def isAnyMajor : Bool :=
  q.major == anyMajor || q.major == defaultMajor

/-- An entry matches the query on its own. -/
def Matches (service inst : UInt16) (major : UInt8) (minor : UInt32) : Prop :=
  q.MatchesService service ∧ q.MatchesInstance inst ∧ q.MatchesMajor major ∧ q.MatchesMinor minor

end Query

namespace Available

/-! ## The queries -/

/-- `check_major_minor` of `is_available_unlocked`. -/
def checkMajorMinor (q : Query) (majors : Majors) : Bool :=
  findOrAny majors q.major q.isAnyMajor fun minor => decide (q.MatchesMinor minor)

/-- The search of `is_available_unlocked` in a service. -/
def checkInstances (q : Query) (instances : Instances) : Bool :=
  findOrAny instances q.inst (q.inst == anyInstance) (checkMajorMinor q)

/-- `is_available_unlocked`. -/
def isAvailable (available : Available) (q : Query) : Bool :=
  findOrAny available q.service (q.service == anyService) (checkInstances q)

/-- `_available[service][instance][major]`, with what is done with the reference. -/
def entry (t : Available) (service inst : UInt16) (major : UInt8) (f : UInt32 → UInt32) : Available :=
  index t service fun instances => index instances inst fun majors => index majors major f

/-- The first pass of `are_available_unlocked` adds the services. -/
def findServices (available : Available) (q : Query) (found : Available) : Available :=
  if q.service = anyService then available.keys.foldl (fun t service => index t service id) found
  else if q.service ∈ available then index found q.service id
  else found

/-- The second pass adds the instances of a service that was found. -/
def findInstances (q : Query) (instances : Instances) (service : UInt16) (found : Available) :
    Available :=
  if q.inst = anyInstance then
    instances.keys.foldl (fun t inst => index t service fun m => index m inst id) found
  else if q.inst ∈ instances then index found service fun m => index m q.inst id
  else found

/-- The third pass adds the major versions of an instance. -/
def findMajors (q : Query) (majors : Majors) (service inst : UInt16) (found : Available) : Available :=
  if q.isAnyMajor then majors.keys.foldl (fun t major => entry t service inst major id) found
  else if q.major ∈ majors then entry found service inst q.major id
  else found

/-- The fourth pass adds the minor versions of an instance, and remembers whether there is one. -/
def findMinors (q : Query) (majors : Majors) (service inst : UInt16) (found : Available × Bool) :
    Available × Bool :=
  majors.toList.foldl (fun t found => if q.MatchesMinor found.2
    then (entry t.1 service inst found.1 fun _ => found.2, true) else t) found

/-- A pass over the services that were found. One that is not available has no instances. -/
def forServices (available : Available) (f : Instances → UInt16 → Available → Available)
    (found : Available) : Available :=
  found.keys.foldl (fun t service => f (available.getD service ∅) service t) found

/-- What the third pass does for a service. -/
def majorsOf (q : Query) (instances : Instances) (service : UInt16) (found : Available) : Available :=
  instances.toList.foldl (fun t it => findMajors q it.2 service it.1 t) found

/-- What the fourth pass does for a service, which is erased if nothing was found. -/
def minorsOf (q : Query) (instances : Instances) (service : UInt16) (found : Available) : Available :=
  let found := instances.toList.foldl (fun t it => findMinors q it.2 service it.1 t) (found, false)
  if found.2 then found.1 else found.1.erase service

/-- `are_available_unlocked`. -/
def areAvailable (available : Available) (found : Available) (q : Query) : Available × Bool :=
  let found := available.findServices q found
  let found := available.forServices (findInstances q) found
  let found := available.forServices (majorsOf q) found
  let found := available.forServices (minorsOf q) found
  if found.isEmpty then (entry found q.service q.inst q.major fun _ => q.minor, false)
  else (found, true)

/-- The minor version in which an instance of a service is available, in a major version. -/
def minor (t : Available) (service inst : UInt16) (major : UInt8) : Option UInt32 :=
  t[service]?.bind fun instances => instances[inst]?.bind fun majors => majors[major]?

/-! ## The query for one -/

section IsAvailable

variable {available : Available} {q : Query}

/-- A key of the map that is the argument itself stands before another entry. -/
def Hides (available : Available) (q : Query) (service inst : UInt16) (major : UInt8) : Prop :=
  (q.service ∈ available ∧ service ≠ q.service) ∨
  (∃ instances, available[service]? = some instances ∧ q.inst ∈ instances ∧ inst ≠ q.inst) ∨
  ∃ instances majors, available[service]? = some instances ∧ instances[inst]? = some majors ∧
    q.major ∈ majors ∧ major ≠ q.major

/-- The minor version of a service, from the nested maps. -/
lemma minor_eq_some_iff {service inst : UInt16} {major : UInt8} {minor : UInt32} :
    available.minor service inst major = some minor ↔ ∃ instances majors,
      available[service]? = some instances ∧ instances[inst]? = some majors ∧
      majors[major]? = some minor := by
  simp only [Available.minor, Option.bind_eq_some_iff]
  constructor
  · rintro ⟨instances, hservice, majors, hinst, hmajor⟩
    exact ⟨instances, majors, hservice, hinst, hmajor⟩
  · rintro ⟨instances, majors, hservice, hinst, hmajor⟩
    exact ⟨instances, hservice, majors, hinst, hmajor⟩

/-- **`is_available` finds** the entries that match and are not hidden by a key of the map. -/
lemma isAvailable_iff : available.isAvailable q = true ↔ ∃ service inst major minor,
    available.minor service inst major = some minor ∧ q.Matches service inst major minor ∧
    ¬ available.Hides q service inst major := by
  simp only [isAvailable, checkInstances, checkMajorMinor, findOrAny_iff, minor_eq_some_iff]
  constructor
  · rintro ⟨service, instances, hservice, hany, hsame, inst, majors, hinst, hany', hsame', major,
      minor, hmajor, hany'', hsame'', hminor⟩
    refine ⟨service, inst, major, minor, ⟨instances, majors, hservice, hinst, hmajor⟩,
      ⟨hany.imp_left eq_of_beq, hany'.imp_left eq_of_beq, ?_, of_decide_eq_true hminor⟩, ?_⟩
    · exact hany''.imp_left fun h => by simpa [Query.isAnyMajor] using h
    · rintro (⟨hmem, hne⟩ | ⟨instances', h, hmem, hne⟩ | ⟨instances', majors', h, h', hmem, hne⟩)
      · exact hne (hsame hmem)
      · obtain rfl := Option.some.inj (hservice.symm.trans h)
        exact hne (hsame' hmem)
      · obtain rfl := Option.some.inj (hservice.symm.trans h)
        obtain rfl := Option.some.inj (hinst.symm.trans h')
        exact hne (hsame'' hmem)
  · rintro ⟨service, inst, major, minor, ⟨instances, majors, hservice, hinst, hmajor⟩,
      ⟨hany, hany', hany'', hminor⟩, hhides⟩
    refine ⟨service, instances, hservice, hany.imp_left (beq_iff_eq.mpr ·), fun h => ?_, inst, majors,
      hinst, hany'.imp_left (beq_iff_eq.mpr ·), fun h => ?_, major, minor, hmajor, ?_, fun h => ?_,
      decide_eq_true hminor⟩
    · by_contra hne
      exact hhides (.inl ⟨h, hne⟩)
    · by_contra hne
      exact hhides (.inr (.inl ⟨instances, hservice, h, hne⟩))
    · exact hany''.imp_left fun h => by simpa [Query.isAnyMajor] using h
    · by_contra hne
      exact hhides (.inr (.inr ⟨instances, majors, hservice, hinst, h, hne⟩))

end IsAvailable

/-! ## The query for all -/

section AreAvailable

/-- The minor versions of a service, by instance and major version. -/
abbrev Minors : Type := UInt16 → UInt8 → Option UInt32

/-- The minor versions in the map of a service. -/
def minors (instances : Instances) : Minors :=
  fun inst major => instances[inst]?.bind fun majors => majors[major]?

/-- What a map has of a service, if the service is a key. -/
def view (t : Available) (service : UInt16) : Option Minors :=
  t[service]?.map minors

variable {available t t' t'' : Available} {q : Query} {service inst : UInt16} {major : UInt8}
  {g : UInt16 → UInt8 → Option UInt32 → UInt32} {P Q : UInt16 → UInt8 → Prop} {v : Minors}

/-- The minor version of a service, from its view. -/
lemma minor_eq_view : t.minor service inst major = (t.view service).bind (· inst major) := by
  rw [minor, view]
  cases t[service]? <;> rfl

/-- A service is there if it has a view. -/
lemma mem_iff_view : service ∈ t ↔ ∃ v, t.view service = some v := by
  rw [TreeMap.mem_iff_isSome_getElem?, view]
  cases t[service]? <;> simp

open Classical in
/-- The minor versions after some have been written, each of them as a function of the old one. -/
noncomputable def write (g : UInt16 → UInt8 → Option UInt32 → UInt32) (P : UInt16 → UInt8 → Prop)
    (v : Minors) : Minors :=
  fun inst major => if P inst major then some (g inst major (v inst major)) else v inst major

/-- From one map to another, only minor versions of one service are written. -/
structure Writes (g : UInt16 → UInt8 → Option UInt32 → UInt32) (service : UInt16)
    (P : UInt16 → UInt8 → Prop) (t t' : Available) : Prop where
  other : ∀ s ≠ service, t'.view s = t.view s
  written : ∀ {v}, t.view service = some v → t'.view service = some (write g P v)

/-- A write to nothing. -/
lemma write_of_forall_not (h : ∀ inst major, ¬ P inst major) (v : Minors) : write g P v = v := by
  funext inst major
  exact if_neg (h inst major)

/-- Nothing is written. -/
lemma Writes.refl (t : Available) : Writes g service (fun _ _ => False) t t where
  other := fun _ _ => rfl
  written := fun hv => by rw [hv, write_of_forall_not fun _ _ => id]

/-- A write to the same places. -/
lemma Writes.congr (h : Writes g service P t t') (hPQ : ∀ inst major, P inst major ↔ Q inst major) :
    Writes g service Q t t' := by
  obtain rfl : P = Q := funext fun inst => funext fun major => propext (hPQ inst major)
  exact h

/-- What is written twice is as if it were written once. -/
lemma Writes.trans (hg : ∀ inst major x, g inst major (some (g inst major x)) = g inst major x)
    (h : Writes g service P t t') (h' : Writes g service Q t' t'') :
    Writes g service (fun inst major => P inst major ∨ Q inst major) t t'' where
  other := fun s hs => (h'.other s hs).trans (h.other s hs)
  written := fun {v} hv => by
    rw [h'.written (h.written hv)]
    congr 1
    funext inst major
    by_cases hP : P inst major
    · by_cases hQ : Q inst major
      · simp [write, hP, hQ, hg]
      · simp [write, hP, hQ]
    · by_cases hQ : Q inst major
      · simp [write, hP, hQ]
      · simp [write, hP, hQ]

/-- The writes of a loop. -/
lemma Writes.foldl (hg : ∀ inst major x, g inst major (some (g inst major x)) = g inst major x)
    {ι : Type} {f : Available → ι → Available} {P : ι → UInt16 → UInt8 → Prop} {l : List ι}
    (h : ∀ x ∈ l, ∀ t, Writes g service (P x) t (f t x)) (t : Available) :
    Writes g service (fun inst major => ∃ x ∈ l, P x inst major) t (l.foldl f t) :=
  foldl_rel Writes.refl (fun h h' => h.trans hg h') h t

/-- The views after one service is changed. -/
lemma view_index {f : Instances → Instances} (s : UInt16) : view (index t service f) s =
    if service = s then some (minors (f (t.getD service default))) else t.view s := by
  rw [view, getElem?_index]
  split <;> rfl

/-- The instances behind a view. -/
lemma getD_of_view (hv : t.view service = some v) : minors (t.getD service default) = v := by
  rw [view, Option.map_eq_some_iff] at hv
  obtain ⟨instances, hservice, rfl⟩ := hv
  rw [TreeMap.getD_eq_getD_getElem?, hservice, Option.getD_some]

/-- The minor version of an instance, if the instance is there or not. -/
lemma getElem?_getD (instances : Instances) :
    (instances.getD inst default)[major]? = minors instances inst major := by
  rw [TreeMap.getD_eq_getD_getElem?, minors]
  cases instances[inst]? with
  | none => exact TreeMap.getElem?_emptyc
  | some majors => rfl

/-- An instance is added. -/
lemma writes_instance (t : Available) : Writes g service (fun _ _ => False) t
    (index t service fun m => index m inst id) where
  other := fun s hs => by rw [view_index, if_neg hs.symm]
  written := fun {v} hv => by
    rw [view_index, if_pos rfl, write_of_forall_not fun _ _ => id, ← getD_of_view hv]
    congr 1
    funext i ma
    rw [minors, minors, getElem?_index]
    split
    · rename_i hi
      subst hi
      exact getElem?_getD _
    · rfl

/-- A minor version is written. -/
lemma writes_entry (f : UInt32 → UInt32) (hf : ∀ x, g inst major x = f (x.getD 0)) (t : Available) :
    Writes g service (fun i ma => inst = i ∧ major = ma) t (entry t service inst major f) where
  other := fun s hs => by rw [entry, view_index, if_neg hs.symm]
  written := fun {v} hv => by
    rw [entry, view_index, if_pos rfl, ← getD_of_view hv]
    congr 1
    funext i ma
    rw [minors, getElem?_index, write]
    by_cases hi : inst = i
    · subst hi
      rw [if_pos rfl, Option.bind_some, getElem?_index]
      by_cases hma : major = ma
      · subst hma
        rw [if_pos rfl, if_pos ⟨rfl, rfl⟩, hf, ← getElem?_getD, TreeMap.getD_eq_getD_getElem?]
        rfl
      · rw [if_neg hma, if_neg fun hand => hma hand.2, getElem?_getD]
    · rw [if_neg hi, if_neg fun hand => hi hand.1, minors]

/-- The second pass adds no minor versions. -/
lemma writes_findInstances (instances : Instances) (t : Available) :
    Writes (fun _ _ x => x.getD 0) service (fun _ _ => False) t
      (findInstances q instances service t) := by
  rw [findInstances]
  split
  · have hround (i : UInt16) (t : Available) :
        Writes (fun _ _ x => x.getD 0) service (fun _ _ => False) t
          (index t service fun m => index m i id) := writes_instance t
    have hall := Writes.foldl (fun _ _ _ => rfl) (l := instances.keys) (fun i _ t => hround i t) t
    simpa using hall
  · split
    · exact writes_instance t
    · exact Writes.refl t

/-- The third pass writes 0 for every instance with a major version that matches. -/
lemma writes_majorsOf (instances : Instances) (t : Available) :
    Writes (fun _ _ x => x.getD 0) service
      (fun inst major => ∃ minor, minors instances inst major = some minor ∧ q.MatchesMajor major) t
      (majorsOf q instances service t) := by
  have hentry (inst : UInt16) (major : UInt8) (t : Available) :
      Writes (fun _ _ x => x.getD 0) service (fun i ma => inst = i ∧ major = ma) t
        (entry t service inst major id) := writes_entry id (fun _ => rfl) t
  have hmajors (inst : UInt16) (majors : Majors) (t : Available) :
      Writes (fun _ _ x => x.getD 0) service
        (fun i ma => inst = i ∧ ma ∈ majors ∧ q.MatchesMajor ma) t
        (findMajors q majors service inst t) := by
    rw [findMajors]
    split
    · rename_i hany
      have hall := Writes.foldl (fun _ _ _ => rfl) (l := majors.keys)
        (fun ma _ t => hentry inst ma t) t
      have hmatches (ma : UInt8) : q.MatchesMajor ma := .inl (by simpa [Query.isAnyMajor] using hany)
      exact hall.congr fun i ma => by simp [hmatches, TreeMap.mem_keys, and_comm]
    · rename_i hany
      have hmatches (ma : UInt8) : q.MatchesMajor ma ↔ q.major = ma :=
        or_iff_right (by simpa [Query.isAnyMajor] using hany)
      split
      · rename_i hmem
        refine (hentry inst q.major t).congr fun i ma => ?_
        rw [hmatches]
        constructor
        · rintro ⟨hi, rfl⟩
          exact ⟨hi, hmem, rfl⟩
        · exact fun h => ⟨h.1, h.2.2⟩
      · rename_i hmem
        refine (Writes.refl t).congr fun i ma => ?_
        rw [hmatches, false_iff]
        rintro ⟨-, h, rfl⟩
        exact hmem h
  have hall := Writes.foldl (fun _ _ _ => rfl) (l := instances.toList)
    (fun it _ t => hmajors it.1 it.2 t) t
  refine hall.congr fun inst major => ?_
  simp only [minors, Option.bind_eq_some_iff, Prod.exists, TreeMap.mem_toList_iff_getElem?_eq_some]
  constructor
  · rintro ⟨i, majors, hinst, rfl, hmem, hmatches⟩
    obtain ⟨minor, hmajor⟩ := Option.isSome_iff_exists.mp (TreeMap.mem_iff_isSome_getElem?.mp hmem)
    exact ⟨minor, ⟨majors, hinst, hmajor⟩, hmatches⟩
  · rintro ⟨minor, ⟨majors, hinst, hmajor⟩, hmatches⟩
    refine ⟨inst, majors, hinst, rfl, ?_, hmatches⟩
    rw [TreeMap.mem_iff_isSome_getElem?, hmajor]
    rfl

/-- A flag is set exactly if something is written. -/
def Finds (g : UInt16 → UInt8 → Option UInt32 → UInt32) (service : UInt16)
    (P : UInt16 → UInt8 → Prop) (t t' : Available × Bool) : Prop :=
  Writes g service P t.1 t'.1 ∧ (t'.2 = true ↔ t.2 = true ∨ ∃ inst major, P inst major)

/-- The fourth pass writes the minor versions that match. -/
lemma finds_minorsOf (instances : Instances) (t : Available × Bool) :
    Finds (fun inst major _ => (minors instances inst major).getD 0) service
      (fun inst major => ∃ minor, minors instances inst major = some minor ∧ q.MatchesMinor minor) t
      (instances.toList.foldl (fun t it => findMinors q it.2 service it.1 t) t) := by
  set g : UInt16 → UInt8 → Option UInt32 → UInt32 :=
    fun inst major _ => (minors instances inst major).getD 0 with hg
  have hrefl (t : Available × Bool) : Finds g service (fun _ _ => False) t t :=
    ⟨Writes.refl t.1, by simp⟩
  have htrans {P Q : UInt16 → UInt8 → Prop} {t t' t'' : Available × Bool}
      (h : Finds g service P t t') (h' : Finds g service Q t' t'') :
      Finds g service (fun inst major => P inst major ∨ Q inst major) t t'' := by
    refine ⟨h.1.trans (fun _ _ _ => rfl) h'.1, ?_⟩
    rw [h'.2, h.2, or_assoc]
    simp only [exists_or]
  have hminors (it : UInt16 × Majors) (hit : it ∈ instances.toList) (t : Available × Bool) :
      Finds g service (fun i ma => ∃ found ∈ it.2.toList, (it.1 = i ∧ found.1 = ma) ∧
        q.MatchesMinor found.2) t (findMinors q it.2 service it.1 t) := by
    refine foldl_rel hrefl htrans (fun found hfound t => ?_) t
    have hit := TreeMap.mem_toList_iff_getElem?_eq_some.mp hit
    have hfound := TreeMap.mem_toList_iff_getElem?_eq_some.mp hfound
    split
    · rename_i hmatches
      refine ⟨(writes_entry _ (fun _ => ?_) t.1).congr fun i ma => (and_iff_left hmatches).symm, ?_⟩
      · simp only [hg, minors, hit, Option.bind_some, hfound, Option.getD_some]
      · simp [hmatches]
    · rename_i hmatches
      refine ⟨(Writes.refl t.1).congr fun i ma => ?_, by simp [hmatches]⟩
      simp [hmatches]
  have hall := foldl_rel hrefl htrans hminors t
  convert hall using 5 with inst major
  simp only [minors, Option.bind_eq_some_iff, Prod.exists, TreeMap.mem_toList_iff_getElem?_eq_some]
  constructor
  · rintro ⟨minor, ⟨majors, hinst, hmajor⟩, hmatches⟩
    exact ⟨inst, majors, hinst, major, minor, hmajor, ⟨rfl, rfl⟩, hmatches⟩
  · rintro ⟨i, majors, hinst, ma, minor, hmajor, ⟨rfl, rfl⟩, hmatches⟩
    exact ⟨minor, ⟨majors, hinst, hmajor⟩, hmatches⟩

/-- A pass does for each service what it does for one alone. -/
lemma view_forServices {F : UInt16 → Minors → Option Minors}
    {f : Instances → UInt16 → Available → Available}
    (h : ∀ service t v, t.view service = some v →
      (∀ s ≠ service, (f (available.getD service ∅) service t).view s = t.view s) ∧
      (f (available.getD service ∅) service t).view service = F service v)
    (t : Available) (s : UInt16) : (forServices available f t).view s = (t.view s).bind (F s) := by
  have hloop (l : List UInt16) (hl : l.Nodup) (t : Available) (ht : ∀ s ∈ l, s ∈ t) :
      (l.foldl (fun t service => f (available.getD service ∅) service t) t).view s =
        if s ∈ l then (t.view s).bind (F s) else t.view s := by
    induction l generalizing t with
    | nil => rfl
    | cons service l ih =>
      obtain ⟨hnot, hl⟩ := List.nodup_cons.mp hl
      obtain ⟨v, hv⟩ := mem_iff_view.mp (ht service List.mem_cons_self)
      obtain ⟨hother, hself⟩ := h service t v hv
      have hmem : ∀ s ∈ l, s ∈ f (available.getD service ∅) service t := by
        intro s hs
        rw [mem_iff_view, hother s (ne_of_mem_of_not_mem hs hnot), ← mem_iff_view]
        exact ht s (List.mem_cons_of_mem service hs)
      rw [List.foldl_cons, ih hl _ hmem]
      by_cases hs : s = service
      · subst hs
        rw [if_neg hnot, if_pos List.mem_cons_self, hself, hv, Option.bind_some]
      · rw [hother s hs]
        simp only [List.mem_cons, hs, false_or]
  rw [forServices, hloop _ TreeMap.nodup_keys t fun s hs => TreeMap.mem_keys.mp hs]
  split
  · rfl
  · rename_i hs
    rw [TreeMap.mem_keys, mem_iff_view] at hs
    cases hv : t.view s with
    | none => rfl
    | some v => exact absurd ⟨v, hv⟩ hs

/-- The map of a service without minor versions. -/
def noMinors : Minors :=
  fun _ _ => none

/-- The views after some services are touched. -/
lemma view_foldl_index (l : List UInt16) (t : Available) (s : UInt16) :
    view (l.foldl (fun t service => index t service id) t) s =
      if s ∈ l then some ((t.view s).getD noMinors) else t.view s := by
  induction l generalizing t with
  | nil => rfl
  | cons service l ih =>
    have hself : (t.view service).getD noMinors = minors (t.getD service default) := by
      cases hv : t.view service with
      | none =>
        rw [view, Option.map_eq_none_iff] at hv
        rw [TreeMap.getD_eq_getD_getElem?, hv, Option.getD_none, Option.getD_none]
        funext i ma
        exact (congrArg (Option.bind · fun majors : Majors => majors[ma]?)
          (TreeMap.getElem?_emptyc (a := i))).symm
      | some v => exact (getD_of_view hv).symm
    rw [List.foldl_cons, ih, view_index]
    by_cases hs : s = service
    · subst hs
      simp [hself]
    · simp [hs, Ne.symm hs]

/-- The services that the first pass finds. -/
lemma view_findServices (s : UInt16) : (findServices available q ∅).view s =
    if q.MatchesService s ∧ s ∈ available then some noMinors else none := by
  have hempty : view ∅ s = none := congrArg (Option.map minors) TreeMap.getElem?_emptyc
  rw [findServices]
  split
  · rename_i hany
    have hmatches : q.MatchesService s := .inl hany
    rw [view_foldl_index, hempty]
    simp [hmatches, TreeMap.mem_keys]
  · rename_i hany
    have hmatches : q.MatchesService s ↔ q.service = s := or_iff_right hany
    split
    · rename_i hmem
      have hindex := view_foldl_index [q.service] ∅ s
      rw [List.foldl_cons, List.foldl_nil, hempty] at hindex
      rw [hindex]
      by_cases hs : s = q.service
      · subst hs
        simp [hmatches, hmem]
      · simp [hmatches, hs, Ne.symm hs]
    · rename_i hmem
      rw [hempty, if_neg]
      rw [hmatches]
      rintro ⟨rfl, h⟩
      exact hmem h

/-- The minor versions of a service, if it is there or not. -/
lemma minors_getD (service inst : UInt16) (major : UInt8) :
    minors (available.getD service ∅) inst major = available.minor service inst major := by
  rw [TreeMap.getD_eq_getD_getElem?, Available.minor]
  cases available[service]? with
  | none => exact congrArg (Option.bind · fun majors : Majors => majors[major]?) TreeMap.getElem?_emptyc
  | some instances => rfl

/-- The service has a minor version that is high enough, in whatever instance and major version. -/
def HasMinor (available : Available) (q : Query) (service : UInt16) : Prop :=
  ∃ inst major minor, available.minor service inst major = some minor ∧ q.MatchesMinor minor

open Classical in
/-- What the fourth pass leaves of a service. -/
lemma minorsOf_spec (t : Available) (hv : t.view service = some v) :
    (∀ s ≠ service, (minorsOf q (available.getD service ∅) service t).view s = t.view s) ∧
    (minorsOf q (available.getD service ∅) service t).view service =
      if available.HasMinor q service then
        some (write (fun inst major _ => (available.minor service inst major).getD 0)
          (fun inst major => ∃ minor, available.minor service inst major = some minor ∧
            q.MatchesMinor minor) v)
      else none := by
  obtain ⟨hwrites, hfound⟩ := @finds_minorsOf q service
    (available.getD service ∅) (t, false)
  simp only [minors_getD, Bool.false_eq_true, false_or] at hwrites hfound
  change _ ↔ available.HasMinor q service at hfound
  dsimp only [minorsOf]
  split
  · rename_i h
    exact ⟨hwrites.other, by rw [hwrites.written hv, if_pos (hfound.mp h)]⟩
  · rename_i h
    refine ⟨fun s hs => ?_, ?_⟩
    · have herase := hwrites.other s hs
      rwa [view, TreeMap.getElem?_erase, if_neg fun h =>
        hs.symm (Std.LawfulEqCmp.compare_eq_iff_eq.mp h)]
    · rw [if_neg fun hex => h (hfound.mpr hex), view, TreeMap.getElem?_erase_self]
      rfl

open Classical in
/-- What the four passes find of a service. -/
lemma view_found (s : UInt16) :
    view (available.forServices (minorsOf q) (available.forServices (majorsOf q)
      (available.forServices (findInstances q) (available.findServices q ∅)))) s =
    if q.MatchesService s ∧ available.HasMinor q s then
      some (write (fun inst major _ => (available.minor s inst major).getD 0)
        (fun inst major => ∃ minor, available.minor s inst major = some minor ∧ q.MatchesMinor minor)
        (write (fun _ _ x => x.getD 0) (fun inst major => ∃ minor,
          available.minor s inst major = some minor ∧ q.MatchesMajor major) noMinors))
    else none := by
  have hinstances (t : Available) : view (available.forServices (findInstances q) t) s = t.view s := by
    rw [view_forServices (F := fun _ v => some v) fun service t v hv => ?_]
    · cases t.view s <;> rfl
    · obtain ⟨hother, hwritten⟩ := @writes_findInstances q service
        (available.getD service ∅) t
      exact ⟨hother, by rw [hwritten hv, write_of_forall_not fun _ _ => id]⟩
  have hmajors (t : Available) : view (available.forServices (majorsOf q) t) s =
      (t.view s).map (write (fun _ _ x => x.getD 0) fun inst major => ∃ minor,
        available.minor s inst major = some minor ∧ q.MatchesMajor major) := by
    rw [view_forServices (F := fun service v => some (write (fun _ _ x => x.getD 0)
      (fun inst major => ∃ minor, available.minor service inst major = some minor ∧
        q.MatchesMajor major) v)) fun service t v hv => ?_]
    · cases t.view s <;> rfl
    · obtain ⟨hother, hwritten⟩ := @writes_majorsOf q service
        (available.getD service ∅) t
      simp only [minors_getD] at hwritten
      exact ⟨hother, hwritten hv⟩
  rw [view_forServices fun service t v hv => minorsOf_spec t hv, hmajors, hinstances,
    view_findServices]
  have hmem : available.HasMinor q s → s ∈ available := by
    rintro ⟨inst, major, minor, h, -⟩
    obtain ⟨instances, -, hservice, -⟩ := minor_eq_some_iff.mp h
    rw [TreeMap.mem_iff_isSome_getElem?, hservice]
    rfl
  by_cases hmatches : q.MatchesService s
  · by_cases hminor : available.HasMinor q s
    · rw [if_pos ⟨hmatches, hmem hminor⟩, if_pos ⟨hmatches, hminor⟩, Option.map_some,
        Option.bind_some, if_pos hminor]
    · rw [if_neg fun hand : q.MatchesService s ∧ _ => hminor hand.2]
      split
      · rw [Option.map_some, Option.bind_some]
      · rfl
  · rw [if_neg fun hand => hmatches hand.1, if_neg fun hand => hmatches hand.1]
    rfl

/-- **`are_available` finds** every minor version that is high enough in a matching service, and 0 in
place of the others if the major version matches. -/
lemma areAvailable_spec :
    ((available.areAvailable ∅ q).2 = true ↔
      ∃ service, q.MatchesService service ∧ available.HasMinor q service) ∧
    ((available.areAvailable ∅ q).2 = true → ∀ service inst major minor,
      (available.areAvailable ∅ q).1.minor service inst major = some minor ↔
        (q.MatchesService service ∧ available.HasMinor q service) ∧
        ∃ found, available.minor service inst major = some found ∧
          (q.MatchesMinor found ∧ minor = found ∨
            ¬ q.MatchesMinor found ∧ q.MatchesMajor major ∧ minor = 0)) := by
  set found := available.forServices (minorsOf q) (available.forServices (majorsOf q)
    (available.forServices (findInstances q) (available.findServices q ∅))) with hfound
  have hview (s : UInt16) : found.view s = _ := view_found s
  have hresult : available.areAvailable ∅ q = if found.isEmpty
      then (entry found q.service q.inst q.major fun _ => q.minor, false) else (found, true) := rfl
  have hempty : found.isEmpty = false ↔
      ∃ service, q.MatchesService service ∧ available.HasMinor q service := by
    rw [TreeMap.isEmpty_eq_false_iff_exists_mem]
    refine exists_congr fun s => ?_
    rw [mem_iff_view, hview]
    split
    · rename_i h
      exact iff_of_true ⟨_, rfl⟩ h
    · rename_i h
      exact iff_of_false (fun ⟨_, hv⟩ => by cases hv) h
  rw [hresult]
  cases hcase : found.isEmpty with
  | true =>
    refine ⟨iff_of_false Bool.false_ne_true fun h => ?_, fun h => absurd h Bool.false_ne_true⟩
    rw [hempty.mpr h] at hcase
    cases hcase
  | false =>
    refine ⟨iff_of_true rfl (hempty.mp hcase), fun _ service inst major minor => ?_⟩
    change found.minor service inst major = some minor ↔ _
    rw [minor_eq_view, hview]
    by_cases hservice : q.MatchesService service ∧ available.HasMinor q service
    · rw [if_pos hservice, and_iff_right hservice, Option.bind_some]
      cases hminor : available.minor service inst major with
      | none => simp [write, hminor, noMinors]
      | some found =>
        by_cases hmatches : q.MatchesMinor found
        · simp [write, hminor, hmatches, eq_comm]
        · by_cases hmajor : q.MatchesMajor major
          · simp [write, hminor, hmatches, hmajor, noMinors, eq_comm]
          · simp [write, hminor, hmatches, hmajor, noMinors]
    · rw [if_neg hservice]
      exact iff_of_false (fun h => by cases h) fun h => hservice h.1

end AreAvailable

/-! ## Main results -/

section Agree

variable (available : Available) (q : Query)

/-- The queries agree: `are_available` says what `is_available` says, and in that case it collects
exactly the entries that match. -/
def Agree : Prop :=
  ((available.areAvailable ∅ q).2 = true ↔ available.isAvailable q = true) ∧
  (available.isAvailable q = true → ∀ service inst major minor,
    (available.areAvailable ∅ q).1.minor service inst major = some minor ↔
      available.minor service inst major = some minor ∧ q.Matches service inst major minor)

/-- Nothing has to be told apart: where an entry of a matching service has a minor version that is
high enough, its instance and its major version match as well, and every entry of the service with a
matching major version has a minor version that is high enough; and if there is such an entry, there
is one that no key of the map hides. -/
def Plain : Prop :=
  ∀ service inst major minor, available.minor service inst major = some minor →
    q.MatchesService service → q.MatchesMinor minor →
      (q.MatchesInstance inst ∧ q.MatchesMajor major) ∧
      (∀ inst' major' minor', available.minor service inst' major' = some minor' →
        q.MatchesMajor major' → q.MatchesMinor minor') ∧
      ∃ service' inst' major' minor', available.minor service' inst' major' = some minor' ∧
        q.Matches service' inst' major' minor' ∧ ¬ available.Hides q service' inst' major'

/-- **The two queries agree** exactly if nothing has to be told apart.

**Proof sketch.** `are_available` does not look at the instance, and it looks at the major version only
for entries with a minor version that is too low, for which it collects 0. So it collects what
matches exactly if each entry with a minor version that is high enough matches, and there are no
others with a matching major version. `is_available` only returns true for an entry that matches. -/
theorem agree_iff : available.Agree q ↔ available.Plain q := by
  obtain ⟨hfound, hentries⟩ := @areAvailable_spec available q
  constructor
  · rintro ⟨hagree, hexact⟩ service inst major minor hminor hservice hmatches
    have his := hagree.mp (hfound.mpr ⟨service, hservice, inst, major, minor, hminor, hmatches⟩)
    have hentries := hentries (hagree.mpr his)
    have hhas : q.MatchesService service ∧ available.HasMinor q service :=
      ⟨hservice, inst, major, minor, hminor, hmatches⟩
    refine ⟨?_, fun inst' major' minor' hminor' hmajor' => ?_, isAvailable_iff.mp his⟩
    · have hself := (hexact his service inst major minor).mp
        ((hentries _ _ _ _).mpr ⟨hhas, minor, hminor, .inl ⟨hmatches, rfl⟩⟩)
      exact ⟨hself.2.2.1, hself.2.2.2.1⟩
    · by_contra hlow
      -- 0 would be collected
      have hzero := (hexact his service inst' major' 0).mp
        ((hentries _ _ _ _).mpr ⟨hhas, minor', hminor', .inr ⟨hlow, hmajor', rfl⟩⟩)
      obtain rfl := Option.some.inj (hminor'.symm.trans hzero.1)
      exact hlow hzero.2.2.2.2
  · intro hplain
    have hagree : (available.areAvailable ∅ q).2 = true ↔ available.isAvailable q = true := by
      rw [hfound, isAvailable_iff]
      constructor
      · rintro ⟨service, hservice, inst, major, minor, hminor, hmatches⟩
        exact (hplain service inst major minor hminor hservice hmatches).2.2
      · rintro ⟨service, inst, major, minor, hminor, hmatches, -⟩
        exact ⟨service, hmatches.1, inst, major, minor, hminor, hmatches.2.2.2⟩
    refine ⟨hagree, fun his service inst major minor => ?_⟩
    rw [hentries (hagree.mpr his)]
    constructor
    · rintro ⟨⟨hservice, inst', major', minor', hminor', hmatches'⟩, found, hminor, hcases⟩
      obtain ⟨-, hall, -⟩ := hplain service inst' major' minor' hminor' hservice hmatches'
      obtain ⟨hmatches, rfl⟩ | ⟨hlow, hmajor, -⟩ := hcases
      · obtain ⟨⟨hinst, hmajor⟩, -⟩ := hplain service inst major minor hminor hservice hmatches
        exact ⟨hminor, hservice, hinst, hmajor, hmatches⟩
      · exact absurd (hall inst major found hminor hmajor) hlow
    · rintro ⟨hminor, hservice, -, -, hmatches⟩
      exact ⟨⟨hservice, inst, major, minor, hminor, hmatches⟩, minor, hminor, .inl ⟨hmatches, rfl⟩⟩

/-- Two instances of a service are available, and there is a query for one of them: the other one is
collected as well. -/
theorem not_agree_instances :
    ¬ (entry (entry ∅ 0x1111 1 1 fun _ => 0) 0x1111 2 1 fun _ => 0).Agree ⟨0x1111, 1, 1, 0⟩ := by
  intro h
  have hother := (h.2 (by decide) 0x1111 2 1 0).mp (by decide)
  exact absurd hother.2.2.1 (by decide)

end Agree

end Available

end Vsomeip
