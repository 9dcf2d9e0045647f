import Mathlib.Algebra.Order.Group.Multiset

set_option relaxedAutoImplicit false
set_option autoImplicit false

/-!
# Relayed items

Nodes pass items on to each other. An item that is on its way reaches a node, at any time and in any
order, and is taken from the way; the node sends other items in its place, or keeps what it says. Every
item has a content, and so has what is kept. If a node makes no more of an item than its content,
nothing is ever duplicated; if it makes exactly its content of it, nothing is lost either.

## Main definitions

* `Relay.Pool` — the items on their way, and what has arrived.
* `Relay.Pool.add`, `Relay.Pool.drop` — something is added, and an item is taken from its way.
* `Relay.Pool.contents` — the contents of everything, as often as they are there.
* `Relay.Pool.All` — a property of all items and of all that has arrived.

## Main results

* `Relay.Pool.contents_relay_le`, `Relay.Pool.contents_relay` — what becomes of the contents when an
  item is replaced.
-/

namespace Relay

variable {I D C : Type}

/-- The items on their way, and what has arrived. -/
structure Pool (I D : Type) where
  onWay : List I
  arrived : List D

namespace Pool

/-- Nothing was sent yet. -/
def empty : Pool I D := ⟨[], []⟩

/-- Items are sent, and something arrives. -/
def add (p : Pool I D) (o : List I × List D) : Pool I D := ⟨p.onWay ++ o.1, p.arrived ++ o.2⟩

/-- An item is taken from its way. -/
def drop (p : Pool I D) (i : ℕ) : Pool I D := { p with onWay := p.onWay.eraseIdx i }

/-- The contents of all items and of all that has arrived. -/
def contents (ofItem : I → C) (ofArrived : D → C) (p : Pool I D) : Multiset C :=
  ↑(p.onWay.map ofItem) + ↑(p.arrived.map ofArrived)

/-- A property of all items, and one of all that has arrived. -/
def All (P : I → Prop) (Q : D → Prop) (p : Pool I D) : Prop :=
  (∀ x ∈ p.onWay, P x) ∧ ∀ d ∈ p.arrived, Q d

section Contents

variable {ofItem : I → C} {ofArrived : D → C} {p : Pool I D} {i : ℕ} {x : I} {o : List I × List D}

/-- An empty pool has no contents. -/
@[simp] lemma contents_empty : (empty : Pool I D).contents ofItem ofArrived = 0 := rfl

/-- The contents of what is added are added. -/
lemma contents_add : (p.add o).contents ofItem ofArrived =
    p.contents ofItem ofArrived + (⟨o.1, o.2⟩ : Pool I D).contents ofItem ofArrived := by
  simp only [contents, add, List.map_append, ← Multiset.coe_add]
  exact add_add_add_comm _ _ _ _

/-- An item stands in front of those that are left, but for the order. -/
lemma perm_cons_eraseIdx {l : List I} (h : l[i]? = some x) : (x :: l.eraseIdx i).Perm l := by
  induction l generalizing i with
  | nil => exact absurd h (by simp)
  | cons y l ih =>
    cases i with
    | zero =>
      obtain rfl := Option.some.inj h
      exact List.Perm.refl _
    | succ i => exact (List.Perm.swap y x _).trans ((ih h).cons y)

/-- The content of an item that is taken from its way is missing. -/
lemma contents_drop (h : p.onWay[i]? = some x) :
    {ofItem x} + (p.drop i).contents ofItem ofArrived = p.contents ofItem ofArrived := by
  have hperm : (↑((x :: p.onWay.eraseIdx i).map ofItem) : Multiset C) = ↑(p.onWay.map ofItem) :=
    Multiset.coe_eq_coe.mpr ((perm_cons_eraseIdx h).map ofItem)
  rw [contents, contents, ← hperm, ← add_assoc]
  rfl

/-- An item that is lost leaves no more than there was. -/
lemma contents_drop_le (i : ℕ) :
    (p.drop i).contents ofItem ofArrived ≤ p.contents ofItem ofArrived := by
  refine add_le_add ?_ le_rfl
  exact Multiset.coe_le.mpr ((List.eraseIdx_sublist ..).map ofItem).subperm

/-- **Nothing is duplicated** if no more is made of an item than its content. -/
lemma contents_relay_le (h : p.onWay[i]? = some x)
    (ho : (⟨o.1, o.2⟩ : Pool I D).contents ofItem ofArrived ≤ {ofItem x}) :
    ((p.drop i).add o).contents ofItem ofArrived ≤ p.contents ofItem ofArrived := by
  rw [contents_add, add_comm, ← contents_drop h]
  exact add_le_add ho le_rfl

/-- **Nothing is lost** if exactly its content is made of an item. -/
lemma contents_relay (h : p.onWay[i]? = some x)
    (ho : (⟨o.1, o.2⟩ : Pool I D).contents ofItem ofArrived = {ofItem x}) :
    ((p.drop i).add o).contents ofItem ofArrived = p.contents ofItem ofArrived := by
  rw [contents_add, ho, add_comm, contents_drop h]

end Contents

section All

variable {P : I → Prop} {Q : D → Prop} {p : Pool I D} {o : List I × List D}

/-- An empty pool has only sound items. -/
lemma all_empty : (empty : Pool I D).All P Q :=
  ⟨fun _ h => absurd h List.not_mem_nil, fun _ h => absurd h List.not_mem_nil⟩

/-- Sound items are added. -/
lemma All.add (h : p.All P Q) (ho : (⟨o.1, o.2⟩ : Pool I D).All P Q) : (p.add o).All P Q :=
  ⟨List.forall_mem_append.mpr ⟨h.1, ho.1⟩, List.forall_mem_append.mpr ⟨h.2, ho.2⟩⟩

/-- An item is dropped. -/
lemma All.drop (h : p.All P Q) (i : ℕ) : (p.drop i).All P Q :=
  ⟨fun x hx => h.1 x (List.mem_of_mem_eraseIdx hx), h.2⟩

end All

end Pool

end Relay
