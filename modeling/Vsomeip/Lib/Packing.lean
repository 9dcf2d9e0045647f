import Mathlib.Data.List.Induction
import Mathlib.Order.Basic

set_option relaxedAutoImplicit false
set_option autoImplicit false

/-!
# Packing a list into pages

The elements of a list are put on pages in their order. What an element takes on a page may depend on
the elements that are there already. An element that does not fit on a page starts the next one.

## Main definitions

* `Packing.load` — what the elements of a page take in all.
* `Packing.pack` — the pages.

## Main results

* `Packing.flatten_pack` — every element is on one page, in the order of the list.
* `Packing.load_le_of_mem_pack` — no page is too full, if each element fits on an empty page.
* `Packing.packFrom_of_not_fits` — an element that does not fit starts a page.
-/

namespace Packing

variable {α : Type} (cost : List α → α → ℕ) (cap : ℕ)

/-- What some elements take behind those of a page. -/
def loadFrom : List α → List α → ℕ
  | _, [] => 0
  | page, a :: as => cost page a + loadFrom (page ++ [a]) as

/-- What the elements of a page take. -/
def load (page : List α) : ℕ := loadFrom cost [] page

/-- The pages of a list, of which the first one has elements already. -/
def packFrom : List α → List α → List (List α)
  | page, [] => [page]
  | page, a :: as =>
    if load cost page + cost page a ≤ cap then packFrom (page ++ [a]) as
    else page :: packFrom [a] as

/-- The pages of a list. -/
def pack (as : List α) : List (List α) := packFrom cost cap [] as

variable {cost cap}

/-- The load of two lists, one behind the other. -/
lemma loadFrom_append (page as bs : List α) :
    loadFrom cost page (as ++ bs) = loadFrom cost page as + loadFrom cost (page ++ as) bs := by
  induction as generalizing page with
  | nil => rw [List.nil_append, List.append_nil, loadFrom, Nat.zero_add]
  | cons a as ih => rw [List.cons_append, loadFrom, loadFrom, ih, List.append_assoc, Nat.add_assoc]; rfl

/-- An empty page has no load. -/
@[simp] lemma load_nil : load cost ([] : List α) = 0 := rfl

/-- One item more adds its cost. -/
lemma load_append_singleton (page : List α) (a : α) :
    load cost (page ++ [a]) = load cost page + cost page a :=
  (loadFrom_append [] page [a]).trans (congrArg (load cost page + ·) (Nat.add_zero _))

/-- Costs that are compared for each element are compared for a page. -/
lemma load_le_load {cost' : List α → α → ℕ} (page : List α)
    (h : ∀ pre a post, page = pre ++ a :: post → cost pre a ≤ cost' pre a) :
    load cost page ≤ load cost' page := by
  induction page using List.reverseRecOn with
  | nil => exact Nat.le_refl 0
  | append_singleton page a ih =>
    rw [load_append_singleton, load_append_singleton]
    refine Nat.add_le_add (ih fun pre b post hpage => h pre b (post ++ [a]) ?_) (h page a [] rfl)
    rw [hpage, List.append_assoc, List.cons_append]

/-- The load for a sum of costs. -/
lemma load_add {cost' : List α → α → ℕ} (page : List α) :
    load (fun pre a => cost pre a + cost' pre a) page = load cost page + load cost' page := by
  induction page using List.reverseRecOn with
  | nil => rfl
  | append_singleton page a ih =>
    rw [load_append_singleton, load_append_singleton, load_append_singleton, ih]
    exact Nat.add_add_add_comm _ _ _ _

/-- A page has not more elements than fit if each takes the least cost. -/
lemma length_mul_le_load {k : ℕ} (h : ∀ pre a, k ≤ cost pre a) {page : List α} :
    k * page.length ≤ load cost page := by
  induction page using List.reverseRecOn with
  | nil => exact Nat.le_refl 0
  | append_singleton page a ih =>
    rw [load_append_singleton, List.length_append, List.length_singleton, Nat.mul_add, Nat.mul_one]
    exact Nat.add_le_add ih (h page a)

/-- Packing keeps the items and their order. -/
lemma flatten_packFrom (page as : List α) : (packFrom cost cap page as).flatten = page ++ as := by
  induction as generalizing page with
  | nil => exact (List.flatten_singleton).trans (List.append_nil page).symm
  | cons a as ih =>
    unfold packFrom
    split_ifs
    · rw [ih, List.append_assoc, List.singleton_append]
    · rw [List.flatten_cons, ih, List.singleton_append]

/-- Every element is on one page, in the order of the list. -/
lemma flatten_pack (as : List α) : (pack cost cap as).flatten = as := flatten_packFrom [] as

/-- No page is loaded above the capacity. -/
lemma load_le_of_mem_packFrom (hcost : ∀ a, cost [] a ≤ cap) {page : List α}
    (hpage : load cost page ≤ cap) (as : List α) :
    ∀ p ∈ packFrom cost cap page as, load cost p ≤ cap := by
  induction as generalizing page with
  | nil => exact List.forall_mem_singleton.mpr hpage
  | cons a as ih =>
    unfold packFrom
    split_ifs with hfits
    · exact ih ((load_append_singleton page a).trans_le hfits)
    · refine List.forall_mem_cons.mpr ⟨hpage, ih ?_⟩
      exact (load_append_singleton [] a).trans_le ((Nat.zero_add _).trans_le (hcost a))

/-- No page is too full, if each element fits on an empty page. -/
lemma load_le_of_mem_pack (hcost : ∀ a, cost [] a ≤ cap) (as : List α) :
    ∀ p ∈ pack cost cap as, load cost p ≤ cap :=
  load_le_of_mem_packFrom hcost (show load cost ([] : List α) ≤ cap from Nat.zero_le cap) as

/-- An element that fits is put on the page. -/
lemma packFrom_of_fits {page : List α} {a : α} (h : load cost page + cost page a ≤ cap)
    (as : List α) : packFrom cost cap page (a :: as) = packFrom cost cap (page ++ [a]) as :=
  if_pos h

/-- An element that does not fit starts a page. -/
lemma packFrom_of_not_fits {page : List α} {a : α} (h : ¬ load cost page + cost page a ≤ cap)
    (ha : cost [] a ≤ cap) (as : List α) :
    packFrom cost cap page (a :: as) = page :: pack cost cap (a :: as) := by
  have hstart : pack cost cap (a :: as) = packFrom cost cap [a] as :=
    packFrom_of_fits ((Nat.zero_add _).trans_le ha) as
  rw [hstart]
  exact if_neg h

end Packing
