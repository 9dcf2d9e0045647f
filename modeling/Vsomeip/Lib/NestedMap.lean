import Mathlib.Data.Finmap

set_option relaxedAutoImplicit false
set_option autoImplicit false

/-!
# Maps of containers

A map whose values are containers stands for a relation between keys and elements. Its level is pruned
if no container is empty, and then the map has no keys exactly if it holds nothing. The containers may
be maps again, so that the rules go through any number of levels.

## Main definitions

* `NestedMap.Every` — all containers have a property.
* `NestedMap.Holds` — an element stands in the container of a key.
* `NestedMap.Pruned` — no container is empty.

## Main results

* `NestedMap.holds_insert_add`, `NestedMap.holds_insert_remove`, `NestedMap.holds_erase` — what is held
  after a change of one container.
* `NestedMap.Pruned.card_keys_eq_zero_iff` — when there are no keys.
-/

namespace NestedMap

variable {α β X : Type} [DecidableEq α]

/-- All containers have the property `Q`. -/
def Every (Q : β → Prop) (m : Finmap fun _ : α => β) : Prop :=
  ∀ a b, m.lookup a = some b → Q b

/-- The element `x` stands in the container of the key `a`; what stands in a container is `P`. -/
def Holds (P : β → X → Prop) (m : Finmap fun _ : α => β) (a : α) (x : X) : Prop :=
  ∃ b, m.lookup a = some b ∧ P b x

/-- No container is empty. -/
def Pruned (P : β → X → Prop) (m : Finmap fun _ : α => β) : Prop := Every (fun b => ∃ x, P b x) m

variable {Q : β → Prop} {P : β → X → Prop} {m : Finmap fun _ : α => β} {a a' : α} {b : β} {x x₀ : X}

/-! ## All containers -/

/-- Every value of an empty map has the property. -/
lemma every_empty : Every Q (∅ : Finmap fun _ : α => β) := by
  intro a b hb
  rw [Finmap.lookup_empty] at hb
  cases hb

/-- A value with the property is inserted. -/
lemma Every.insert (h : Every Q m) (hb : Q b) : Every Q (m.insert a b) := by
  intro a' b' hlookup
  by_cases ha : a' = a
  · subst ha
    rw [Finmap.lookup_insert, Option.some.injEq] at hlookup
    exact hlookup ▸ hb
  · rw [Finmap.lookup_insert_of_ne m ha] at hlookup
    exact h a' b' hlookup

/-- A key is erased. -/
lemma Every.erase (h : Every Q m) : Every Q (m.erase a) := by
  intro a' b' hlookup
  by_cases ha : a' = a
  · subst ha
    rw [Finmap.lookup_erase] at hlookup
    cases hlookup
  · rw [Finmap.lookup_erase_ne ha] at hlookup
    exact h a' b' hlookup

/-- The container of a key, or another one, has the property. -/
lemma Every.getD (h : Every Q m) (hb : Q b) : Q ((m.lookup a).getD b) := by
  cases hlookup : m.lookup a with
  | none => exact hb
  | some b' => exact h a b' hlookup

/-! ## What is held -/

/-- An empty map holds nothing. -/
lemma not_holds_empty : ¬ Holds P (∅ : Finmap fun _ : α => β) a x := by
  rintro ⟨b, hb, -⟩
  rw [Finmap.lookup_empty] at hb
  cases hb

/-- What is held under a key stands in its container, if an empty one is taken where there is none. -/
lemma holds_getD (hb : ¬ P b x) : P ((m.lookup a).getD b) x ↔ Holds P m a x := by
  rw [Holds]
  cases hlookup : m.lookup a with
  | none => simpa using hb
  | some b' => simp

/-- What is held after a container has been put in. -/
lemma holds_insert : Holds P (m.insert a b) a' x ↔ if a' = a then P b x else Holds P m a' x := by
  by_cases ha : a' = a
  · subst ha
    simp [Holds, Finmap.lookup_insert]
  · rw [if_neg ha, Holds, Finmap.lookup_insert_of_ne m ha]
    rfl

/-- What is held after a container has been taken out. -/
lemma holds_erase : Holds P (m.erase a) a' x ↔ a' ≠ a ∧ Holds P m a' x := by
  by_cases ha : a' = a
  · subst ha
    simp [Holds, Finmap.lookup_erase]
  · rw [Holds, Finmap.lookup_erase_ne ha]
    exact (and_iff_right ha).symm

/-- An element is added to the container of a key. -/
lemma holds_insert_add (hb : ∀ x, P b x ↔ x = x₀ ∨ Holds P m a x) :
    Holds P (m.insert a b) a' x ↔ (a' = a ∧ x = x₀) ∨ Holds P m a' x := by
  rw [holds_insert]
  by_cases ha : a' = a
  · subst ha
    simp [hb]
  · simp [ha]

/-- The elements with the property `R` are removed from the container of a key. -/
lemma holds_insert_remove {R : X → Prop} (hb : ∀ x, P b x ↔ ¬ R x ∧ Holds P m a x) :
    Holds P (m.insert a b) a' x ↔ ¬ (a' = a ∧ R x) ∧ Holds P m a' x := by
  rw [holds_insert]
  by_cases ha : a' = a
  · subst ha
    simp [hb]
  · simp [ha]

/-! ## Maps without empty containers -/

/-- A key of a pruned map holds something. -/
lemma Pruned.mem_iff (h : Pruned P m) : a ∈ m ↔ ∃ x, Holds P m a x := by
  rw [Finmap.mem_iff]
  constructor
  · rintro ⟨b, hb⟩
    obtain ⟨x, hx⟩ := h a b hb
    exact ⟨x, b, hb, hx⟩
  · rintro ⟨x, b, hb, -⟩
    exact ⟨b, hb⟩

/-- A pruned map has no keys exactly if it holds nothing. -/
lemma Pruned.card_keys_eq_zero_iff (h : Pruned P m) :
    m.keys.card = 0 ↔ ∀ a x, ¬ Holds P m a x := by
  rw [Finset.card_eq_zero, Finset.eq_empty_iff_forall_notMem]
  refine forall_congr' fun a => ?_
  rw [Finmap.mem_keys, h.mem_iff, not_exists]

end NestedMap
