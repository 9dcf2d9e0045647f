import Mathlib.Algebra.Group.Nat.Defs
import Mathlib.Tactic.Tauto
import Vsomeip.Routing.EventRegistry

set_option relaxedAutoImplicit false
set_option autoImplicit false

/-!
# Consistency of the event registry

Clients register events as providers or requesters and unregister them again, and a subscription to
an unknown event makes a placeholder for it. The references that each client holds are counted here
from its calls. The tables are consistent with them if an event exists exactly as long as it is a
placeholder or somebody holds a reference, if it is provided exactly as long as somebody holds a
reference as a provider, and if the eventgroups of an event are those that list it.

The tables become inconsistent at a registration without eventgroups (the event gets an eventgroup
with its own id, for which no `eventgroupinfo` is made), at a registration that does not fit an
existing one (its eventgroups list the event, which does not get them), at a placeholder that is
registered as a placeholder again or as provided, and when one of several providers unregisters.
Every other step keeps them consistent.

## Main definitions

* `Vsomeip.EventLedger` — the registry with the references of the clients.
* `Vsomeip.EventLedger.Consistent` — the tables fit the references and each other.
* `Vsomeip.EventLedger.Fits` — the condition on a step.

## Main results

* `Vsomeip.EventLedger.consistent_along_iff` — along a run in which no counter overflows the tables
  are consistent exactly if all steps meet the condition.
-/

namespace Vsomeip

open Std (TreeMap)

/-! ## References -/

namespace Event

/-- The counter of the references of a client. -/
def refCount (ev : Event) (client : UInt16) (isProvided : Bool) : ℕ :=
  ((ev.refs.lookup (client, isProvided)).getD 0).toNat

/-- The counters are those of a ledger, and there is none for a client without references. -/
structure Counts (ev : Event) (held : UInt16 → Bool → ℕ) : Prop where
  pos : ∀ k n, ev.refs.lookup k = some n → n ≠ 0
  refCount_eq : ∀ c b, ev.refCount c b = held c b

variable {ev : Event} {held : UInt16 → Bool → ℕ} (client : UInt16) (isProvided : Bool)

/-- The references of an event after one is added. -/
lemma lookup_addRef (k : UInt16 × Bool) : (ev.addRef client isProvided).refs.lookup k =
    if k = (client, isProvided) then some ((ev.refs.lookup (client, isProvided)).getD 0 + 1)
    else ev.refs.lookup k := by
  unfold addRef
  split_ifs with h
  · rw [h]
    exact AList.lookup_insert _
  · exact AList.lookup_insert_ne h

/-- The references of an event after one is removed. -/
lemma lookup_removeRef (k : UInt16 × Bool) : (ev.removeRef client isProvided).refs.lookup k =
    if k = (client, isProvided) then
      (ev.refs.lookup (client, isProvided)).bind fun n => if n - 1 = 0 then none else some (n - 1)
    else ev.refs.lookup k := by
  unfold removeRef
  cases hn : ev.refs.lookup (client, isProvided) with
  | none =>
    split_ifs with h
    · rw [h, hn]
      rfl
    · rfl
  | some n =>
    dsimp only
    rw [Option.bind_some]
    by_cases hzero : n - 1 = 0
    · rw [if_pos hzero, if_pos hzero]
      split_ifs with h
      · rw [h]
        exact AList.lookup_erase _ _
      · exact AList.lookup_erase_ne h
    · rw [if_neg hzero, if_neg hzero]
      split_ifs with h
      · rw [h]
        exact AList.lookup_insert _
      · exact AList.lookup_insert_ne h

/-- A reference more. -/
lemma Counts.addRef (h : ev.Counts held) (hlt : held client isProvided < 2 ^ 32 - 1) :
    (ev.addRef client isProvided).Counts fun c b =>
      if c = client ∧ b = isProvided then held c b + 1 else held c b := by
  have hcount : ((ev.refs.lookup (client, isProvided)).getD 0 + 1).toNat =
      held client isProvided + 1 := by
    have hheld := h.refCount_eq client isProvided
    rw [refCount] at hheld
    rw [UInt32.toNat_add, hheld, UInt32.toNat_one]
    omega
  refine ⟨fun k n hn => ?_, fun c b => ?_⟩
  · rw [lookup_addRef] at hn
    split_ifs at hn
    · obtain rfl := Option.some.inj hn
      intro hzero
      rw [hzero] at hcount
      exact absurd hcount.symm (Nat.succ_ne_zero _)
    · exact h.pos k n hn
  · rw [refCount, lookup_addRef]
    by_cases hcb : c = client ∧ b = isProvided
    · obtain ⟨rfl, rfl⟩ := hcb
      rw [if_pos rfl, if_pos ⟨rfl, rfl⟩, Option.getD_some, hcount]
    · rw [if_neg fun heq => hcb (Prod.mk.inj heq), if_neg hcb]
      exact h.refCount_eq c b

/-- A reference less. -/
lemma Counts.removeRef (h : ev.Counts held) : (ev.removeRef client isProvided).Counts fun c b =>
    if c = client ∧ b = isProvided then held c b - 1 else held c b := by
  refine ⟨fun k n hn => ?_, fun c b => ?_⟩
  · rw [lookup_removeRef] at hn
    split_ifs at hn
    · obtain ⟨m, -, hm⟩ := Option.bind_eq_some_iff.mp hn
      split_ifs at hm with hzero
      obtain rfl := Option.some.inj hm
      exact hzero
    · exact h.pos k n hn
  · rw [refCount, lookup_removeRef]
    by_cases hcb : c = client ∧ b = isProvided
    · obtain ⟨rfl, rfl⟩ := hcb
      have hheld := h.refCount_eq c b
      rw [if_pos rfl, if_pos ⟨rfl, rfl⟩, ← hheld, refCount]
      cases hn : ev.refs.lookup (c, b) with
      | none => rfl
      | some n =>
        have hpos : 1 ≤ n := by
          rw [UInt32.le_iff_toNat_le, UInt32.toNat_one]
          exact Nat.pos_of_ne_zero fun hz => h.pos _ _ hn (UInt32.toNat_inj.mp hz)
        have hsub : (n - 1).toNat = n.toNat - 1 := by
          rw [UInt32.toNat_sub_of_le _ _ hpos, UInt32.toNat_one]
        rw [Option.bind_some, Option.getD_some, ← hsub]
        split_ifs with hzero
        · rw [hzero]
          rfl
        · rfl
    · rw [if_neg fun heq => hcb (Prod.mk.inj heq), if_neg hcb]
      exact h.refCount_eq c b

/-- An event without counters is one to which nobody holds a reference. -/
lemma Counts.hasRef_iff (h : ev.Counts held) : ev.hasRef = true ↔ ∃ c b, 0 < held c b := by
  have hkeys : ev.hasRef = true ↔ ∃ k, k ∈ ev.refs := by
    rw [Event.hasRef, decide_eq_true_iff, ne_eq, List.length_eq_zero_iff,
      List.eq_nil_iff_forall_not_mem, not_forall_not]
    rfl
  rw [hkeys]
  constructor
  · rintro ⟨⟨c, b⟩, hmem⟩
    obtain ⟨n, hn⟩ := Option.isSome_iff_exists.mp (AList.lookup_isSome.mpr hmem)
    refine ⟨c, b, ?_⟩
    rw [← h.refCount_eq, refCount, hn]
    exact Nat.pos_of_ne_zero fun hz => h.pos _ _ hn (UInt32.toNat_inj.mp hz)
  · rintro ⟨c, b, hpos⟩
    refine ⟨(c, b), AList.lookup_isSome.mp (Option.isSome_iff_ne_none.mpr fun hnone => ?_)⟩
    rw [← h.refCount_eq, refCount, hnone] at hpos
    exact absurd hpos (Nat.lt_irrefl 0)

end Event

/-! ## The registry with its ledger -/

/-- The registry, and the references that the clients hold by their calls. -/
structure EventLedger where
  registry : EventRegistry
  held : ServiceKey → UInt16 → UInt16 → Bool → ℕ

/-- The calls of clients. -/
inductive RegistryAction
  | register (r : EventRegistration)
  | unregister (client : UInt16) (service : ServiceKey) (event : UInt16) (isProvided : Bool)

namespace EventLedger

/-- Nothing is registered. -/
def init : EventLedger := ⟨.empty, fun _ _ _ _ => 0⟩

/-- The number of references of one client to one event changes. -/
def setHeld (held : ServiceKey → UInt16 → UInt16 → Bool → ℕ) (service : ServiceKey)
    (event client : UInt16) (isProvided : Bool) (f : ℕ → ℕ) :
    ServiceKey → UInt16 → UInt16 → Bool → ℕ := fun k e c b =>
  if (k = service ∧ e = event) ∧ c = client ∧ b = isProvided then f (held k e c b)
  else held k e c b

/-- A call. A placeholder is registered by nobody. -/
def step (s : EventLedger) : RegistryAction → EventLedger
  | .register r =>
    { registry := s.registry.registerEvent r
      held :=
        if r.isCachePlaceholder then s.held
        else setHeld s.held r.service r.event r.client r.isProvided (· + 1) }
  | .unregister client service event isProvided =>
    { registry := s.registry.unregisterEvent client service event isProvided
      held := setHeld s.held service event client isProvided (· - 1) }

/-- The tables fit the references and each other. -/
structure Consistent (s : EventLedger) : Prop where
  exists_iff : ∀ k e, (∃ p, s.registry.events k e = some p) ↔
    (∃ p, s.registry.events k e = some p ∧ (s.registry.objects p).isCachePlaceholder = true) ∨
      ∃ c b, 0 < s.held k e c b
  isProvided_iff : ∀ k e p, s.registry.events k e = some p →
    ((s.registry.objects p).isProvided = true ↔ ∃ c, 0 < s.held k e c true)
  eventgroup_iff : ∀ k e p, s.registry.events k e = some p → ∀ eg,
    (eg ∈ (s.registry.objects p).eventgroups ↔
      ∃ info, s.registry.eventgroups k eg = some info ∧ p ∈ info)

/-- The condition on a registration, by the event that it finds:
* A new event is registered with an eventgroup, and not as a provided placeholder.
* A placeholder gets the real values, and if they name no eventgroup, it is in the one with its id.
* An event of the same kind is not registered as a provided placeholder, unless it is provided.
* An event of another kind has all of the eventgroups, and is provided if the registration says so. -/
def FitsRegister (r : EventRegistration) : Option Event → Prop
  | none => r.eventgroups ≠ [] ∧ ¬ (r.isCachePlaceholder ∧ r.isProvided)
  | some ev =>
    if ev.isCachePlaceholder then
      ¬ r.isCachePlaceholder ∧ (r.eventgroups = [] → r.event ∈ ev.eventgroups)
    else if ev.isField = r.isField then
      r.isCachePlaceholder → r.isProvided → ev.isProvided
    else
      (∀ eg ∈ r.eventgroups, eg ∈ ev.eventgroups) ∧
        (¬ r.isCachePlaceholder → r.isProvided → ev.isProvided)

/-- The condition on a step. A provider unregisters only if nobody else provides the event and it has
not registered the event more than once. -/
def Fits (s : EventLedger) : RegistryAction → Prop
  | .register r => FitsRegister r (s.registry.findEvent r.service r.event)
  | .unregister client service event isProvided =>
    isProvided = true → ∀ c, 0 < s.held service event c true →
      c = client ∧ s.held service event c true = 1

/-- The counter of the reference, a `uint32_t`, does not overflow. -/
def Counted (s : EventLedger) : RegistryAction → Prop
  | .register r =>
    r.isCachePlaceholder = false → s.held r.service r.event r.client r.isProvided < 2 ^ 32 - 1
  | .unregister .. => True

/-! ## One event -/

/-- What consistency says of an event, with its references and the eventgroups that list it. -/
structure EntryConsistent (ev : Event) (held : UInt16 → Bool → ℕ) (listed : UInt16 → Prop) :
    Prop where
  used : ev.isCachePlaceholder = true ∨ ∃ c b, 0 < held c b
  isProvided_iff : ev.isProvided = true ↔ ∃ c, 0 < held c true
  eventgroup_iff : ∀ eg, eg ∈ ev.eventgroups ↔ listed eg

/-- An event is found for an eventgroup if its info lists it. -/
lemma mem_findEvents_iff (s : EventRegistry) (k : ServiceKey) (eg : UInt16) (p : ℕ) :
    p ∈ s.findEvents k eg ↔ ∃ info, s.eventgroups k eg = some info ∧ p ∈ info := by
  rw [EventRegistry.findEvents]
  cases s.eventgroups k eg with
  | none => simp
  | some info => simp

/-- Consistency, entry by entry. -/
lemma consistent_iff (s : EventLedger) : s.Consistent ↔ ∀ k e,
    (s.registry.events k e = none → ∀ c b, s.held k e c b = 0) ∧
    ∀ p, s.registry.events k e = some p → EntryConsistent (s.registry.objects p) (s.held k e)
      fun eg => p ∈ s.registry.findEvents k eg := by
  constructor
  · refine fun h k e => ⟨fun hnone c b => ?_, fun p hp => ⟨?_, h.isProvided_iff k e p hp, ?_⟩⟩
    · by_contra hne
      obtain ⟨p, hp⟩ := (h.exists_iff k e).mpr (.inr ⟨c, b, Nat.pos_of_ne_zero hne⟩)
      rw [hnone] at hp
      cases hp
    · refine ((h.exists_iff k e).mp ⟨p, hp⟩).imp_left ?_
      rintro ⟨q, hq, hplaceholder⟩
      obtain rfl := Option.some.inj (hp.symm.trans hq)
      exact hplaceholder
    · intro eg
      rw [mem_findEvents_iff]
      exact h.eventgroup_iff k e p hp eg
  · refine fun h => ⟨fun k e => ⟨?_, ?_⟩, fun k e p hp => ((h k e).2 p hp).isProvided_iff,
      fun k e p hp eg => ?_⟩
    · rintro ⟨p, hp⟩
      exact ((h k e).2 p hp).used.imp_left fun hplaceholder => ⟨p, hp, hplaceholder⟩
    · rintro (⟨p, hp, -⟩ | ⟨c, b, hpos⟩)
      · exact ⟨p, hp⟩
      · cases hp : s.registry.events k e with
        | none => exact absurd ((h k e).1 hp c b) (Nat.ne_of_gt hpos)
        | some p => exact ⟨p, rfl⟩
    · rw [← mem_findEvents_iff]
      exact ((h k e).2 p hp).eventgroup_iff eg

section Register

variable {ev : Event} {held : UInt16 → Bool → ℕ} {listed : UInt16 → Prop} (r : EventRegistration)

/-- The references to the event of a registration after it. -/
def heldAfter (r : EventRegistration) (held : UInt16 → Bool → ℕ) : UInt16 → Bool → ℕ := fun c b =>
  if r.isCachePlaceholder then held c b
  else if c = r.client ∧ b = r.isProvided then held c b + 1 else held c b

/-- Somebody holds the event after a registration: it is a proper one, or somebody held it before. -/
lemma exists_heldAfter : (∃ c b, 0 < heldAfter r held c b) ↔
    r.isCachePlaceholder = false ∨ ∃ c b, 0 < held c b := by
  unfold heldAfter
  cases r.isCachePlaceholder with
  | true => simp
  | false =>
    simp only [Bool.false_eq_true, if_false, true_or, iff_true]
    refine ⟨r.client, r.isProvided, ?_⟩
    rw [if_pos ⟨rfl, rfl⟩]
    exact Nat.succ_pos _

/-- Somebody provides the event after a registration. -/
lemma exists_heldAfter_true : (∃ c, 0 < heldAfter r held c true) ↔
    (r.isCachePlaceholder = false ∧ r.isProvided = true) ∨ ∃ c, 0 < held c true := by
  unfold heldAfter
  cases hplaceholder : r.isCachePlaceholder with
  | true => simp
  | false =>
    simp only [Bool.false_eq_true, if_false, true_and]
    constructor
    · rintro ⟨c, hc⟩
      by_cases h : c = r.client ∧ true = r.isProvided
      · exact .inl h.2.symm
      · rw [if_neg h] at hc
        exact .inr ⟨c, hc⟩
    · rintro (hprovided | ⟨c, hc⟩)
      · refine ⟨r.client, ?_⟩
        rw [if_pos ⟨rfl, hprovided.symm⟩]
        exact Nat.succ_pos _
      · refine ⟨c, ?_⟩
        split_ifs
        · exact Nat.succ_pos _
        · exact hc

end Register

/-- The invariant: consistency, the counters of the events, and that nobody holds a reference to a
placeholder. -/
structure Inv (s : EventLedger) : Prop where
  owned : s.registry.Owned
  counts : ∀ {k e p}, s.registry.events k e = some p → (s.registry.objects p).Counts (s.held k e)
  placeholder : ∀ {k e p}, s.registry.events k e = some p →
    (s.registry.objects p).isCachePlaceholder = true → ∀ c b, s.held k e c b = 0
  consistent : s.Consistent

variable {s : EventLedger}

/-- Nobody holds an event that is not registered. -/
lemma Inv.held_eq_zero (hs : s.Inv) {k : ServiceKey} {e : UInt16}
    (hnone : s.registry.events k e = none) (c : UInt16) (b : Bool) : s.held k e c b = 0 :=
  (((consistent_iff s).mp hs.consistent) k e).1 hnone c b

/-- The entry of a registered event is consistent. -/
lemma Inv.entryConsistent (hs : s.Inv) {k : ServiceKey} {e : UInt16} {p : ℕ}
    (hp : s.registry.events k e = some p) :
    EntryConsistent (s.registry.objects p) (s.held k e) fun eg => p ∈ s.registry.findEvents k eg :=
  (((consistent_iff s).mp hs.consistent) k e).2 p hp

/-! ## Registrations -/

section Register

variable (r : EventRegistration)

/-- The event that is registered is consistent after the registration. -/
def RegisteredConsistent (s : EventLedger) (r : EventRegistration) : Prop :=
  EntryConsistent (s.registry.registered r) (heldAfter r (s.held r.service r.event)) fun eg =>
    eg ∈ r.eventgroups ∨ s.registry.pointer r ∈ s.registry.findEvents r.service eg

/-- Consistency of one entry, spelled out. -/
lemma entryConsistent_iff {ev : Event} {held : UInt16 → Bool → ℕ} {listed : UInt16 → Prop} :
    EntryConsistent ev held listed ↔ (ev.isCachePlaceholder = true ∨ ∃ c b, 0 < held c b) ∧
      (ev.isProvided = true ↔ ∃ c, 0 < held c true) ∧ ∀ eg, eg ∈ ev.eventgroups ↔ listed eg :=
  ⟨fun h => ⟨h.used, h.isProvided_iff, h.eventgroup_iff⟩, fun h => ⟨h.1, h.2.1, h.2.2⟩⟩

/-- Nobody holds or provides an event without references. -/
lemma not_exists_held {held : UInt16 → Bool → ℕ} (h : ∀ c b, held c b = 0) :
    (¬ ∃ c b, 0 < held c b) ∧ ¬ ∃ c, 0 < held c true := by
  constructor
  · rintro ⟨c, b, hpos⟩
    exact Nat.ne_of_gt hpos (h c b)
  · rintro ⟨c, hpos⟩
    exact Nat.ne_of_gt hpos (h c true)

/-- A new event: the flags are those of the registration, and no eventgroup lists it yet. -/
lemma Inv.registeredConsistent_of_none (hs : s.Inv)
    (hp : s.registry.events r.service r.event = none) :
    RegisteredConsistent s r ↔ FitsRegister r none := by
  obtain ⟨m, hm, hmem, -⟩ := hs.owned.registered_of_none r hp
  obtain ⟨m', hm', -⟩ := r.create_eq
  have hnot : ∀ eg, s.registry.pointer r ∉ s.registry.findEvents r.service eg := by
    intro eg hlisted
    rw [EventRegistry.pointer, hp, Option.getD_none] at hlisted
    exact Nat.lt_irrefl _ (hs.owned.listed_lt hlisted)
  obtain ⟨hheld, hprovider⟩ := not_exists_held (hs.held_eq_zero hp)
  rw [RegisteredConsistent, entryConsistent_iff, hm, hm', exists_heldAfter, exists_heldAfter_true]
  simp only [hmem, hnot, hheld, hprovider, or_false, r.mem_eventgroupsOrOwn, FitsRegister]
  constructor
  · rintro ⟨-, hprovided, hgroups⟩
    refine ⟨fun hnil => ?_, ?_⟩
    · have hown := (hgroups r.event).mp (.inr ⟨hnil, rfl⟩)
      rw [hnil] at hown
      exact absurd hown List.not_mem_nil
    · rintro ⟨hplaceholder, hisProvided⟩
      exact absurd (hprovided.mp hisProvided).1 (by rw [hplaceholder]; decide)
  · rintro ⟨hne, hprovided⟩
    refine ⟨?_, ?_, ?_⟩
    · cases r.isCachePlaceholder <;> simp
    · cases hplaceholder : r.isCachePlaceholder with
      | true => simp [hplaceholder] at hprovided ⊢; exact hprovided
      | false => simp
    · intro eg
      simp [hne]

/-- An event of the same kind gets the eventgroups. -/
lemma Inv.registeredConsistent_of_isField_eq (hs : s.Inv) {p : ℕ}
    (hp : s.registry.events r.service r.event = some p)
    (hplaceholder : (s.registry.objects p).isCachePlaceholder = false)
    (hfield : (s.registry.objects p).isField = r.isField) :
    RegisteredConsistent s r ↔ FitsRegister r (some (s.registry.objects p)) := by
  obtain ⟨m, hm, hmem, -⟩ := EventRegistry.registered_of_isField_eq r hp hplaceholder hfield
  have hold := hs.entryConsistent hp
  have hused : ∃ c b, 0 < s.held r.service r.event c b :=
    hold.used.resolve_left (by rw [hplaceholder]; decide)
  have hptr : s.registry.pointer r = p := by rw [EventRegistry.pointer, hp]; rfl
  rw [RegisteredConsistent, entryConsistent_iff, hm, exists_heldAfter, exists_heldAfter_true, hptr]
  simp only [hmem, hold.eventgroup_iff, hused, or_true, true_and, Bool.or_eq_true,
    ← hold.isProvided_iff, implies_true, and_true, FitsRegister, hplaceholder, Bool.false_eq_true,
    if_false, hfield, if_true]
  cases r.isCachePlaceholder <;> cases r.isProvided <;> simp

/-- An event of another kind stays as it is, but is listed by the eventgroups. -/
lemma Inv.registeredConsistent_of_isField_ne (hs : s.Inv) {p : ℕ}
    (hp : s.registry.events r.service r.event = some p)
    (hplaceholder : (s.registry.objects p).isCachePlaceholder = false)
    (hfield : (s.registry.objects p).isField ≠ r.isField) :
    RegisteredConsistent s r ↔ FitsRegister r (some (s.registry.objects p)) := by
  have hold := hs.entryConsistent hp
  have hused : ∃ c b, 0 < s.held r.service r.event c b :=
    hold.used.resolve_left (by rw [hplaceholder]; decide)
  have hptr : s.registry.pointer r = p := by rw [EventRegistry.pointer, hp]; rfl
  rw [RegisteredConsistent, entryConsistent_iff,
    EventRegistry.registered_of_isField_ne r hp hplaceholder hfield, exists_heldAfter,
    exists_heldAfter_true, hptr]
  simp only [← hold.eventgroup_iff, hused, or_true, true_and, ← hold.isProvided_iff, FitsRegister,
    hplaceholder, Bool.false_eq_true, if_false, hfield]
  constructor
  · rintro ⟨hprovided, hgroups⟩
    refine ⟨fun eg heg => (hgroups eg).mpr (.inl heg), ?_⟩
    intro hreal hisProvided
    exact hprovided.mpr (.inl ⟨by simpa using hreal, hisProvided⟩)
  · rintro ⟨hgroups, hprovided⟩
    refine ⟨⟨.inr, ?_⟩, fun eg => ⟨.inr, ?_⟩⟩
    · rintro (⟨hreal, hisProvided⟩ | hisProvided)
      · exact hprovided (by simpa using hreal) hisProvided
      · exact hisProvided
    · rintro (heg | heg)
      · exact hgroups eg heg
      · exact heg

/-- A placeholder gets the flags of the registration, and nobody held a reference to it. -/
lemma Inv.registeredConsistent_of_placeholder (hs : s.Inv) {p : ℕ}
    (hp : s.registry.events r.service r.event = some p)
    (hplaceholder : (s.registry.objects p).isCachePlaceholder = true) :
    RegisteredConsistent s r ↔ FitsRegister r (some (s.registry.objects p)) := by
  obtain ⟨m, hm, hmem, -⟩ := r.fill_eq (s.registry.objects p)
  have hold := hs.entryConsistent hp
  obtain ⟨hheld, hprovider⟩ := not_exists_held (hs.placeholder hp hplaceholder)
  have hptr : s.registry.pointer r = p := by rw [EventRegistry.pointer, hp]; rfl
  rw [RegisteredConsistent, entryConsistent_iff,
    EventRegistry.registered_of_placeholder r hp hplaceholder, hm, exists_heldAfter,
    exists_heldAfter_true, hptr]
  simp only [hmem, ← hold.eventgroup_iff, hheld, hprovider, or_false, Bool.false_eq_true, false_or,
    r.mem_eventgroupsOrOwn, FitsRegister, hplaceholder, if_true]
  constructor
  · rintro ⟨hreal, -, hgroups⟩
    refine ⟨by rw [hreal]; decide, fun hnil => ?_⟩
    refine ((hgroups r.event).mp (.inl (.inr ⟨hnil, rfl⟩))).resolve_left fun hmem => ?_
    rw [hnil] at hmem
    exact absurd hmem List.not_mem_nil
  · rintro ⟨hreal, hown⟩
    refine ⟨by simpa using hreal, ?_, fun eg => ⟨?_, Or.imp_left .inl⟩⟩
    · have hfalse : r.isCachePlaceholder = false := by simpa using hreal
      rw [hfalse]
      simp
    · rintro ((heg | ⟨hnil, rfl⟩) | heg)
      · exact .inl heg
      · exact .inr (hown hnil)
      · exact .inr heg

/-- A registration is consistent exactly if it fits. -/
lemma Inv.registeredConsistent_iff (hs : s.Inv) :
    RegisteredConsistent s r ↔ s.Fits (.register r) := by
  rw [Fits, EventRegistry.findEvent]
  cases hp : s.registry.events r.service r.event with
  | none => exact hs.registeredConsistent_of_none r hp
  | some p =>
    cases hplaceholder : (s.registry.objects p).isCachePlaceholder with
    | true => exact hs.registeredConsistent_of_placeholder r hp hplaceholder
    | false =>
      by_cases hfield : (s.registry.objects p).isField = r.isField
      · exact hs.registeredConsistent_of_isField_eq r hp hplaceholder hfield
      · exact hs.registeredConsistent_of_isField_ne r hp hplaceholder hfield

end Register

section StepRegister

variable (r : EventRegistration)

/-- The references of the event after its registration. -/
lemma held_step_register_self : (s.step (.register r)).held r.service r.event =
    heldAfter r (s.held r.service r.event) := by
  funext c b
  simp only [step, heldAfter]
  split_ifs with h1 h2
  · rfl
  · rw [setHeld, if_pos ⟨⟨rfl, rfl⟩, h2⟩]
  · rw [setHeld, if_neg fun h => h2 h.2]

/-- A registration keeps the references of other events. -/
lemma held_step_register_of_ne {k : ServiceKey} {e : UInt16}
    (hne : ¬ (k = r.service ∧ e = r.event)) : (s.step (.register r)).held k e = s.held k e := by
  funext c b
  simp only [step]
  split_ifs
  · rfl
  · rw [setHeld, if_neg fun h => hne h.1]

/-- The reference of the client is not among what consistency speaks about. -/
lemma entryConsistent_withRef {held : UInt16 → Bool → ℕ} {listed : UInt16 → Prop} :
    EntryConsistent (s.registry.withRef r) held listed ↔
      EntryConsistent (s.registry.registered r) held listed := by
  rw [entryConsistent_iff, entryConsistent_iff, EventRegistry.withRef]
  split_ifs <;> rfl

/-- The other events stay as they are. -/
lemma Inv.entryConsistent_step_register_of_ne (hs : s.Inv) {k : ServiceKey} {e : UInt16}
    (hne : ¬ (k = r.service ∧ e = r.event)) {p : ℕ} (hp : s.registry.events k e = some p) :
    EntryConsistent ((s.step (.register r)).registry.objects p) ((s.step (.register r)).held k e)
      fun eg => p ∈ (s.step (.register r)).registry.findEvents k eg := by
  have hptr := hs.owned.ne_pointer r hp hne
  have hold := hs.entryConsistent hp
  rw [held_step_register_of_ne r hne, step, EventRegistry.objects_registerEvent_of_ne r hptr]
  refine ⟨hold.used, hold.isProvided_iff, fun eg => ?_⟩
  rw [EventRegistry.mem_findEvents_registerEvent, hold.eventgroup_iff]
  exact ⟨.inr, fun h => h.resolve_left fun h' => hptr h'.2.2⟩

/-- A registration keeps the tables consistent exactly if it meets the condition. -/
lemma Inv.consistent_step_register_iff (hs : s.Inv) :
    (s.step (.register r)).Consistent ↔ s.Fits (.register r) := by
  have hevent : (s.step (.register r)).registry.events r.service r.event =
      some (s.registry.pointer r) := by
    rw [step, EventRegistry.events_registerEvent, if_pos ⟨rfl, rfl⟩]
  have hentry : RegisteredConsistent s r ↔
      EntryConsistent ((s.step (.register r)).registry.objects (s.registry.pointer r))
        ((s.step (.register r)).held r.service r.event) fun eg =>
          s.registry.pointer r ∈ (s.step (.register r)).registry.findEvents r.service eg := by
    rw [held_step_register_self, step, EventRegistry.objects_registerEvent_pointer,
      entryConsistent_withRef, RegisteredConsistent]
    simp only [EventRegistry.mem_findEvents_registerEvent, true_and, and_true]
  rw [← hs.registeredConsistent_iff r, hentry, consistent_iff]
  refine ⟨fun h => (h r.service r.event).2 _ hevent, fun h k e => ?_⟩
  by_cases hkey : k = r.service ∧ e = r.event
  · obtain ⟨rfl, rfl⟩ := hkey
    refine ⟨fun hnone => ?_, fun p hp => ?_⟩
    · rw [hevent] at hnone
      cases hnone
    · obtain rfl := Option.some.inj (hevent.symm.trans hp)
      exact h
  · have hsame : (s.step (.register r)).registry.events k e = s.registry.events k e := by
      rw [step, EventRegistry.events_registerEvent, if_neg hkey]
    rw [hsame]
    refine ⟨fun hnone c b => ?_, fun p hp => hs.entryConsistent_step_register_of_ne r hkey hp⟩
    rw [held_step_register_of_ne r hkey]
    exact hs.held_eq_zero hnone c b

/-- The counters of the registered event, before the new reference. -/
lemma Inv.counts_registered (hs : s.Inv) :
    (s.registry.registered r).Counts (s.held r.service r.event) := by
  cases hp : s.registry.events r.service r.event with
  | none =>
    obtain ⟨m, hm, -⟩ := hs.owned.registered_of_none r hp
    obtain ⟨m', hm', -⟩ := r.create_eq
    rw [hm, hm']
    refine ⟨fun k n hn => ?_, fun c b => ?_⟩
    · rw [show (Event.new r.service r.event).refs.lookup k = none from rfl] at hn
      cases hn
    · rw [hs.held_eq_zero hp]
      rfl
  | some p =>
    have hold := hs.counts hp
    cases hplaceholder : (s.registry.objects p).isCachePlaceholder with
    | true =>
      obtain ⟨m, hm, -⟩ := r.fill_eq (s.registry.objects p)
      rw [EventRegistry.registered_of_placeholder r hp hplaceholder, hm]
      exact ⟨hold.pos, hold.refCount_eq⟩
    | false =>
      by_cases hfield : (s.registry.objects p).isField = r.isField
      · obtain ⟨m, hm, -⟩ := EventRegistry.registered_of_isField_eq r hp hplaceholder hfield
        rw [hm]
        exact ⟨hold.pos, hold.refCount_eq⟩
      · rw [EventRegistry.registered_of_isField_ne r hp hplaceholder hfield]
        exact hold

/-- The event counts its references after a registration. -/
lemma Inv.counts_withRef (hs : s.Inv) (hcounted : s.Counted (.register r)) :
    (s.registry.withRef r).Counts (heldAfter r (s.held r.service r.event)) := by
  have hold := hs.counts_registered r
  unfold EventRegistry.withRef heldAfter
  cases hplaceholder : r.isCachePlaceholder with
  | true => exact hold
  | false => exact hold.addRef r.client r.isProvided (hcounted hplaceholder)

/-- What is a placeholder after a registration has been registered as a placeholder. -/
lemma Inv.held_eq_zero_of_withRef (hs : s.Inv)
    (h : (s.registry.withRef r).isCachePlaceholder = true) (c : UInt16) (b : Bool) :
    heldAfter r (s.held r.service r.event) c b = 0 := by
  have hregistered : (s.registry.registered r).isCachePlaceholder = true := by
    rw [EventRegistry.withRef] at h
    split_ifs at h <;> exact h
  cases hp : s.registry.events r.service r.event with
  | none =>
    obtain ⟨m, hm, -⟩ := hs.owned.registered_of_none r hp
    obtain ⟨m', hm', -⟩ := r.create_eq
    have hplaceholder : r.isCachePlaceholder = true := by
      rw [hm, hm'] at hregistered
      exact hregistered
    rw [heldAfter, if_pos hplaceholder]
    exact hs.held_eq_zero hp c b
  | some p =>
    exfalso
    cases hplaceholder : (s.registry.objects p).isCachePlaceholder with
    | true =>
      obtain ⟨m, hm, -⟩ := r.fill_eq (s.registry.objects p)
      rw [EventRegistry.registered_of_placeholder r hp hplaceholder, hm] at hregistered
      cases hregistered
    | false =>
      by_cases hfield : (s.registry.objects p).isField = r.isField
      · obtain ⟨m, hm, -⟩ := EventRegistry.registered_of_isField_eq r hp hplaceholder hfield
        rw [hm] at hregistered
        exact absurd (hplaceholder.symm.trans hregistered) (by decide)
      · rw [EventRegistry.registered_of_isField_ne r hp hplaceholder hfield] at hregistered
        exact absurd (hplaceholder.symm.trans hregistered) (by decide)

/-- A registration that is counted and fits keeps the invariant. -/
lemma Inv.step_register (hs : s.Inv) (hcounted : s.Counted (.register r))
    (hfits : s.Fits (.register r)) : (s.step (.register r)).Inv where
  owned := hs.owned.registerEvent r
  counts := fun {k e p} hp => by
    rw [step, EventRegistry.events_registerEvent] at hp
    split_ifs at hp with hkey
    · obtain rfl := Option.some.inj hp
      obtain ⟨rfl, rfl⟩ := hkey
      rw [held_step_register_self, step, EventRegistry.objects_registerEvent_pointer]
      exact hs.counts_withRef r hcounted
    · rw [held_step_register_of_ne r hkey, step,
        EventRegistry.objects_registerEvent_of_ne r (hs.owned.ne_pointer r hp hkey)]
      exact hs.counts hp
  placeholder := fun {k e p} hp => by
    rw [step, EventRegistry.events_registerEvent] at hp
    split_ifs at hp with hkey
    · obtain rfl := Option.some.inj hp
      obtain ⟨rfl, rfl⟩ := hkey
      rw [held_step_register_self, step, EventRegistry.objects_registerEvent_pointer]
      exact hs.held_eq_zero_of_withRef r
    · rw [held_step_register_of_ne r hkey, step,
        EventRegistry.objects_registerEvent_of_ne r (hs.owned.ne_pointer r hp hkey)]
      exact hs.placeholder hp
  consistent := (hs.consistent_step_register_iff r).mpr hfits

end StepRegister

/-! ## Unregistrations -/

section Unregister

variable {client : UInt16} {service : ServiceKey} {event : UInt16} {isProvided : Bool}

/-- The references to an event after one of a client is given up. -/
def heldWithout (held : UInt16 → Bool → ℕ) (client : UInt16) (isProvided : Bool) :
    UInt16 → Bool → ℕ := fun c b =>
  if c = client ∧ b = isProvided then held c b - 1 else held c b

/-- The references of the event after the end of a registration. -/
lemma held_step_unregister_self :
    (s.step (.unregister client service event isProvided)).held service event =
      heldWithout (s.held service event) client isProvided := by
  funext c b
  simp only [step, setHeld, heldWithout, true_and, and_self]

/-- The end of a registration keeps the references of other events. -/
lemma held_step_unregister_of_ne {k : ServiceKey} {e : UInt16}
    (hne : ¬ (k = service ∧ e = event)) :
    (s.step (.unregister client service event isProvided)).held k e = s.held k e := by
  funext c b
  simp only [step, setHeld]
  exact if_neg fun h => hne h.1

/-- No reference as a provider is left exactly if the condition is met. -/
lemma fits_unregister_iff : s.Fits (.unregister client service event isProvided) ↔
    (isProvided = true → ∀ c, heldWithout (s.held service event) client isProvided c true = 0) := by
  refine forall_congr' fun hprovided => forall_congr' fun c => ?_
  subst hprovided
  unfold heldWithout
  by_cases hc : c = client
  · subst hc
    simp only [and_self, if_true, true_and]
    omega
  · simp only [hc, false_and, if_false, imp_false, Nat.not_lt, Nat.le_zero]

/-- Nothing happens to an event that is not there. -/
lemma Inv.step_unregister_of_none (hs : s.Inv) (hp : s.registry.events service event = none) :
    s.step (.unregister client service event isProvided) = s := by
  have hheld : setHeld s.held service event client isProvided (· - 1) = s.held := by
    funext k e c b
    rw [setHeld]
    split_ifs with h
    · obtain ⟨⟨rfl, rfl⟩, -⟩ := h
      rw [hs.held_eq_zero hp c b]
    · rfl
  have hregistry : s.registry.unregisterEvent client service event isProvided = s.registry := by
    rw [EventRegistry.unregisterEvent, hp]
  rw [step, hheld, hregistry]

section Last

variable {p : ℕ} (hs : s.Inv) (hp : s.registry.events service event = some p)
  (hlast : ((s.registry.objects p).removeRef client isProvided).hasRef = false)

include hs hp hlast

/-- After the last registration has ended nobody holds the event. -/
lemma Inv.heldWithout_eq_zero (c : UInt16) (b : Bool) :
    heldWithout (s.held service event) client isProvided c b = 0 := by
  have hcounts := (hs.counts hp).removeRef client isProvided
  by_contra hne
  have href := hcounts.hasRef_iff.mpr ⟨c, b, Nat.pos_of_ne_zero hne⟩
  rw [hlast] at href
  cases href

/-- The last reference is given up. The event is in no table any more, and the other events are
listed as before. -/
lemma Inv.step_unregister_of_last : (s.step (.unregister client service event isProvided)).Inv := by
  obtain ⟨f, hf, hmem⟩ := EventRegistry.unregisterEvent_of_last s.registry client service event
    isProvided hp hlast
  have hregistry : (s.step (.unregister client service event isProvided)).registry = _ := hf
  have hother : ∀ {k e q},
      (s.step (.unregister client service event isProvided)).registry.events k e = some q →
      s.registry.events k e = some q ∧ ¬ (k = service ∧ e = event) ∧ q ≠ p := by
    intro k e q hq
    rw [hregistry] at hq
    dsimp only at hq
    split_ifs at hq with hkey
    refine ⟨hq, hkey, ?_⟩
    rintro rfl
    exact hkey (hs.owned.inj hq hp)
  have hobjects : ∀ {q}, q ≠ p →
      (s.step (.unregister client service event isProvided)).registry.objects q =
        s.registry.objects q := by
    intro q hq
    rw [hregistry]
    exact Function.update_of_ne hq _ _
  refine ⟨hs.owned.unregisterEvent client service event isProvided, fun {k e q} hq => ?_,
    fun {k e q} hq => ?_, (consistent_iff _).mpr fun k e => ⟨fun hnone c b => ?_, fun q hq => ?_⟩⟩
  · obtain ⟨hq, hkey, hne⟩ := hother hq
    rw [hobjects hne, held_step_unregister_of_ne hkey]
    exact hs.counts hq
  · obtain ⟨hq, hkey, hne⟩ := hother hq
    rw [hobjects hne, held_step_unregister_of_ne hkey]
    exact hs.placeholder hq
  · by_cases hkey : k = service ∧ e = event
    · obtain ⟨rfl, rfl⟩ := hkey
      rw [held_step_unregister_self]
      exact hs.heldWithout_eq_zero hp hlast c b
    · rw [held_step_unregister_of_ne hkey]
      rw [hregistry] at hnone
      dsimp only at hnone
      rw [if_neg hkey] at hnone
      exact hs.held_eq_zero hnone c b
  · obtain ⟨hq, hkey, hne⟩ := hother hq
    have hold := hs.entryConsistent hq
    rw [hobjects hne, held_step_unregister_of_ne hkey]
    refine ⟨hold.used, hold.isProvided_iff, fun eg => (hold.eventgroup_iff eg).trans ?_⟩
    rw [hregistry]
    exact Iff.symm ((hmem k eg q).trans (and_iff_left fun h => hne h.2.2))

end Last

section HasRef

variable {p : ℕ} (hs : s.Inv) (hp : s.registry.events service event = some p)
  (href : ((s.registry.objects p).removeRef client isProvided).hasRef = true)

/-- The event after a reference was given up and others are left. -/
def unreferenced (ev : Event) (client : UInt16) (isProvided : Bool) : Event :=
  if isProvided then { ev.removeRef client isProvided with isProvided := false }
  else ev.removeRef client isProvided

/-- Removing a reference changes nothing else. -/
lemma removeRef_eq (ev : Event) (client : UInt16) (isProvided : Bool) : ∃ refs,
    ev.removeRef client isProvided = { ev with refs := refs } := by
  unfold Event.removeRef
  split
  · exact ⟨ev.refs, rfl⟩
  · split_ifs
    · exact ⟨_, rfl⟩
    · exact ⟨_, rfl⟩

include hs hp href

/-- The event whose reference is given up. It is provided no longer if a provider gives it up. -/
lemma Inv.entryConsistent_unreferenced_iff :
    EntryConsistent (unreferenced (s.registry.objects p) client isProvided)
      (heldWithout (s.held service event) client isProvided)
      (fun eg => p ∈ s.registry.findEvents service eg) ↔
    s.Fits (.unregister client service event isProvided) := by
  have hold := hs.entryConsistent hp
  have hused : ∃ c b, 0 < heldWithout (s.held service event) client isProvided c b :=
    ((hs.counts hp).removeRef client isProvided).hasRef_iff.mp href
  obtain ⟨refs, hrefs⟩ := removeRef_eq (s.registry.objects p) client isProvided
  rw [fits_unregister_iff, entryConsistent_iff, unreferenced, hrefs]
  cases isProvided with
  | true =>
    simp only [if_true, hused, or_true, true_and, Bool.false_eq_true, false_iff, not_exists,
      Nat.not_lt, Nat.le_zero, hold.eventgroup_iff, implies_true, and_true, forall_const]
  | false =>
    have hsame : ∀ c, heldWithout (s.held service event) client false c true =
        s.held service event c true := fun c => if_neg fun h => absurd h.2 (by decide)
    simp only [Bool.false_eq_true, if_false, hused, or_true, hsame, hold.isProvided_iff,
      hold.eventgroup_iff, implies_true, and_true, false_implies]

/-- The end of the last registration is consistent exactly if it fits. -/
lemma Inv.consistent_step_unregister_iff :
    (s.step (.unregister client service event isProvided)).Consistent ↔
      s.Fits (.unregister client service event isProvided) := by
  have hregistry : (s.step (.unregister client service event isProvided)).registry =
      s.registry.write p (unreferenced (s.registry.objects p) client isProvided) :=
    EventRegistry.unregisterEvent_of_hasRef s.registry client service event isProvided hp href
  rw [← hs.entryConsistent_unreferenced_iff hp href, consistent_iff, hregistry]
  refine ⟨fun h => ?_, fun h k e => ⟨fun hnone c b => ?_, fun q hq => ?_⟩⟩
  · have hself := (h service event).2 p hp
    rw [held_step_unregister_self] at hself
    simp only [EventRegistry.write, Function.update_self] at hself
    exact hself
  · have hkey : ¬ (k = service ∧ e = event) := by
      rintro ⟨rfl, rfl⟩
      exact absurd (hp.symm.trans hnone) (by simp)
    rw [held_step_unregister_of_ne hkey]
    exact hs.held_eq_zero hnone c b
  · by_cases hkey : k = service ∧ e = event
    · obtain ⟨rfl, rfl⟩ := hkey
      obtain rfl := Option.some.inj (hp.symm.trans hq)
      rw [held_step_unregister_self]
      simp only [EventRegistry.write, Function.update_self]
      exact h
    · have hne : q ≠ p := by
        rintro rfl
        exact hkey (hs.owned.inj hq hp)
      rw [held_step_unregister_of_ne hkey]
      simp only [EventRegistry.write, Function.update_of_ne hne]
      exact hs.entryConsistent hq

/-- The end of a registration that is not the last one keeps the invariant. -/
lemma Inv.step_unregister_of_hasRef (hfits : s.Fits (.unregister client service event isProvided)) :
    (s.step (.unregister client service event isProvided)).Inv := by
  have hregistry : (s.step (.unregister client service event isProvided)).registry =
      s.registry.write p (unreferenced (s.registry.objects p) client isProvided) :=
    EventRegistry.unregisterEvent_of_hasRef s.registry client service event isProvided hp href
  have hself : ∀ {k e q},
      (s.step (.unregister client service event isProvided)).registry.events k e = some q →
      s.registry.events k e = some q ∧ ((k = service ∧ e = event ∧ q = p) ∨
        (¬ (k = service ∧ e = event) ∧ q ≠ p)) := by
    intro k e q hq
    rw [hregistry] at hq
    refine ⟨hq, ?_⟩
    by_cases hkey : k = service ∧ e = event
    · obtain ⟨rfl, rfl⟩ := hkey
      exact .inl ⟨rfl, rfl, Option.some.inj (hq.symm.trans hp)⟩
    · refine .inr ⟨hkey, ?_⟩
      rintro rfl
      exact hkey (hs.owned.inj hq hp)
  refine ⟨hs.owned.unregisterEvent client service event isProvided, fun {k e q} hq => ?_,
    fun {k e q} hq => ?_, (hs.consistent_step_unregister_iff hp href).mpr hfits⟩
  · obtain ⟨hq, ⟨rfl, rfl, rfl⟩ | ⟨hkey, hne⟩⟩ := hself hq
    · rw [held_step_unregister_self, hregistry]
      have hcounts := (hs.counts hp).removeRef client isProvided
      simp only [EventRegistry.write, Function.update_self, unreferenced]
      split_ifs
      · exact ⟨hcounts.pos, hcounts.refCount_eq⟩
      · exact hcounts
    · rw [held_step_unregister_of_ne hkey, hregistry]
      simp only [EventRegistry.write, Function.update_of_ne hne]
      exact hs.counts hq
  · obtain ⟨hq, ⟨rfl, rfl, rfl⟩ | ⟨hkey, hne⟩⟩ := hself hq
    · rw [held_step_unregister_self, hregistry]
      obtain ⟨refs, hrefs⟩ := removeRef_eq (s.registry.objects q) client isProvided
      simp only [EventRegistry.write, Function.update_self, unreferenced, hrefs]
      intro hplaceholder c b
      have hold : (s.registry.objects q).isCachePlaceholder = true := by
        split_ifs at hplaceholder <;> exact hplaceholder
      rw [heldWithout, hs.placeholder hp hold, ite_self]
    · rw [held_step_unregister_of_ne hkey, hregistry]
      simp only [EventRegistry.write, Function.update_of_ne hne]
      exact hs.placeholder hq

end HasRef

/-- The end of a registration that fits keeps the invariant. -/
lemma Inv.step_unregister (hs : s.Inv) (hfits : s.Fits (.unregister client service event isProvided)) :
    (s.step (.unregister client service event isProvided)).Inv := by
  cases hp : s.registry.events service event with
  | none =>
    rw [hs.step_unregister_of_none hp]
    exact hs
  | some p =>
    cases href : ((s.registry.objects p).removeRef client isProvided).hasRef with
    | true => exact hs.step_unregister_of_hasRef hp href hfits
    | false => exact hs.step_unregister_of_last hp href

/-- The end of a registration fits if it is consistent. -/
lemma Inv.fits_unregister_of_consistent (hs : s.Inv)
    (h : (s.step (.unregister client service event isProvided)).Consistent) :
    s.Fits (.unregister client service event isProvided) := by
  cases hp : s.registry.events service event with
  | none =>
    rw [fits_unregister_iff]
    intro _ c
    rw [heldWithout, hs.held_eq_zero hp, ite_self]
  | some p =>
    cases href : ((s.registry.objects p).removeRef client isProvided).hasRef with
    | true => exact (hs.consistent_step_unregister_iff hp href).mp h
    | false =>
      rw [fits_unregister_iff]
      exact fun _ c => hs.heldWithout_eq_zero hp href c true

end Unregister

/-! ## Runs -/

/-- The invariant holds at the start. -/
lemma inv_init : init.Inv where
  owned := EventRegistry.owned_empty
  counts h := by cases h
  placeholder h := by cases h
  consistent := (consistent_iff init).mpr fun _ _ => ⟨fun _ _ _ => rfl, fun _ h => by cases h⟩

/-- Along every run in which no counter of references overflows, the tables are consistent after
every step if and only if every step meets the condition.

**Proof sketch.** Each operation changes one event. For a registration, the four branches of the
source give the flags and the eventgroups of the event, and consistency becomes a statement about
the registration and the event that it found. For an unregistration the event is removed, or it is
no longer provided, which is right if no provider is left. -/
theorem consistent_along_iff (as : List RegistryAction)
    (hcounted : Runs.Along step Counted init as) :
    Runs.Along step (fun s a => (s.step a).Consistent) init as ↔ Runs.Along step Fits init as := by
  refine @Runs.along_iff _ _ step Inv Counted Fits _ (fun {s a} hs hc hfits => ?_)
    (fun {s a} hs hc hbad h => hbad ?_) as _ inv_init hcounted
  · have hstep : (s.step a).Inv := by
      cases a with
      | register r => exact hs.step_register r hc hfits
      | unregister client service event isProvided => exact hs.step_unregister hfits
    exact ⟨hstep, hstep.consistent⟩
  · cases a with
    | register r => exact (hs.consistent_step_register_iff r).mp h
    | unregister client service event isProvided => exact hs.fits_unregister_of_consistent h

/-- A registration of event 0x8001 of service 0x1234, instance 1, as a field. -/
def exampleRegistration (client : UInt16) (eventgroups : List UInt16) (isProvided : Bool) :
    EventRegistration :=
  { client := client, service := (0x1234, 1), event := 0x8001, eventgroups := eventgroups,
    isField := true, epsilonChange := none, debounce := fun _ _ => true, isProvided := isProvided,
    isShadow := false, isCachePlaceholder := false }

/-- A provider and a requester register an event in two eventgroups, and the provider unregisters. -/
theorem consistent_along_two_clients :
    Runs.Along step (fun s a => (s.step a).Consistent) init
      [.register (exampleRegistration 0x101 [1] true), .register (exampleRegistration 0x102 [2] false),
        .unregister 0x101 (0x1234, 1) 0x8001 true] := by
  refine (consistent_along_iff _ ?_).mpr ⟨?_, ?_, ?_, trivial⟩
  · exact ⟨fun _ => by decide, fun _ => by decide, trivial, trivial⟩
  · exact ⟨by decide, by decide⟩
  · exact fun h => absurd h (by decide)
  · intro _ c hc
    by_cases h : c = 0x101
    · subst h
      decide
    · refine absurd hc (Nat.not_lt.mpr (Nat.le_of_eq ?_))
      simp [step, setHeld, init, exampleRegistration, h]

/-- A provider registers an event without an eventgroup. The event is then in the eventgroup with its
own id, which does not exist. -/
theorem not_consistent_without_eventgroup :
    ¬ ∀ as : List RegistryAction, Runs.Along step Counted init as →
      Runs.Along step (fun s a => (s.step a).Consistent) init as := by
  intro h
  have hrun := h [.register (exampleRegistration 0x101 [] true)] ⟨fun _ => by decide, trivial⟩
  obtain ⟨info, hinfo, -⟩ := (hrun.1.eventgroup_iff (0x1234, 1) 0x8001 0 (by decide) 0x8001).mp
    (by decide)
  cases hinfo

end EventLedger

end Vsomeip
