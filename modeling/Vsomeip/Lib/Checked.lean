import Mathlib.Tactic.Common

set_option relaxedAutoImplicit false
set_option autoImplicit false

/-!
# Checked computations

A computation in `Except ε` that stops at the first step that is not allowed, such as a read outside
of a list. A computation is fine if it gets to its end.

## Main definitions

* `Checked.Fine` — the computation has a value.
* `Checked.Yields` — the computation has a value with a property.
* `Checked.guarded` — a value if a condition holds.

## Main results

* `Checked.fine_bind_iff`, `Checked.Fine.bind` — a sequence is fine if its parts are.
* `Checked.Fine.mapM`, `Checked.fine_mapM_iff` — so is a loop over a list.
-/

namespace Checked

variable {ε α β : Type}

/-- The computation has a value. -/
def Fine (m : Except ε α) : Prop := ∃ a, m = .ok a

/-- A value is fine. -/
@[simp] lemma fine_ok (a : α) : Fine (.ok a : Except ε α) := ⟨a, rfl⟩

/-- A value that is returned is fine. -/
@[simp] lemma fine_pure (a : α) : Fine (pure a : Except ε α) := ⟨a, rfl⟩

/-- An error is not fine. -/
@[simp] lemma not_fine_error (e : ε) : ¬ Fine (.error e : Except ε α) := by
  rintro ⟨a, h⟩
  cases h

/-- A computation that goes on from a value. -/
lemma ok_bind (a : α) (f : α → Except ε β) : (.ok a >>= f) = f a := rfl

/-- A sequence has a value if its first part has one and the rest has one for it. -/
lemma bind_eq_ok_iff {m : Except ε α} {f : α → Except ε β} {b : β} :
    m >>= f = .ok b ↔ ∃ a, m = .ok a ∧ f a = .ok b := by
  cases m with
  | error e =>
    constructor
    · intro h
      cases h
    · rintro ⟨a, h, -⟩
      cases h
  | ok a =>
    constructor
    · exact fun h => ⟨a, rfl, h⟩
    · rintro ⟨a', h, h'⟩
      cases h
      exact h'

/-- A sequence is fine if its first part returns a value from which the second part is fine. -/
lemma fine_bind_iff {m : Except ε α} {f : α → Except ε β} :
    Fine (m >>= f) ↔ ∃ a, m = .ok a ∧ Fine (f a) := by
  simp only [Fine, bind_eq_ok_iff]
  constructor
  · rintro ⟨b, a, hm, hf⟩
    exact ⟨a, hm, b, hf⟩
  · rintro ⟨a, hm, b, hf⟩
    exact ⟨b, a, hm, hf⟩

/-- A sequence is fine if its parts are. -/
lemma Fine.bind {m : Except ε α} {f : α → Except ε β} (hm : Fine m) (hf : ∀ a, Fine (f a)) :
    Fine (m >>= f) := by
  obtain ⟨a, ha⟩ := hm
  exact fine_bind_iff.mpr ⟨a, ha, hf a⟩

/-- The first part of a sequence that is fine is fine. -/
lemma Fine.of_bind {m : Except ε α} {f : α → Except ε β} (h : Fine (m >>= f)) : Fine m := by
  obtain ⟨a, ha, -⟩ := fine_bind_iff.mp h
  exact ⟨a, ha⟩

/-- The rest of a sequence that is fine is fine for some value. -/
lemma Fine.exists_of_bind {m : Except ε α} {f : α → Except ε β} (h : Fine (m >>= f)) :
    ∃ a, Fine (f a) := by
  obtain ⟨a, -, ha⟩ := fine_bind_iff.mp h
  exact ⟨a, ha⟩

/-- A sequence whose rest is fine for all values or for none. -/
lemma fine_bind_iff_and {m : Except ε α} {f : α → Except ε β} {p : Prop}
    (hf : ∀ a, Fine (f a) ↔ p) : Fine (m >>= f) ↔ Fine m ∧ p := by
  rw [fine_bind_iff]
  constructor
  · rintro ⟨a, ha, hfine⟩
    exact ⟨⟨a, ha⟩, (hf a).mp hfine⟩
  · rintro ⟨⟨a, ha⟩, hp⟩
    exact ⟨a, ha, (hf a).mpr hp⟩

/-- A sequence that ends with a value is fine if what comes before is. -/
lemma fine_bind_pure_iff {m : Except ε α} {g : α → β} :
    Fine (m >>= fun a => pure (g a)) ↔ Fine m := by
  rw [fine_bind_iff_and fun a => iff_true_intro (fine_pure (g a)), and_true]

/-- A part that is left out under a condition. -/
lemma fine_ite_pure_iff {c : Prop} [Decidable c] {m : Except ε α} {a : α} :
    Fine (if c then m else pure a) ↔ (c → Fine m) := by
  split_ifs with h
  · exact ⟨fun hm _ => hm, fun hm => hm h⟩
  · exact iff_of_true (fine_pure a) fun h' => absurd h' h

/-- A loop over a list is fine if all its rounds are. -/
lemma Fine.mapM {f : α → Except ε β} {l : List α} (h : ∀ a ∈ l, Fine (f a)) : Fine (l.mapM f) := by
  induction l with
  | nil => exact fine_pure []
  | cons a l ih =>
    rw [List.mapM_cons]
    refine (h a List.mem_cons_self).bind fun b => ?_
    refine (ih fun a' ha' => h a' (List.mem_cons_of_mem a ha')).bind fun bs => ?_
    exact fine_pure (b :: bs)

/-- The values of a loop over a list. -/
lemma mapM_eq_ok {f : α → Except ε β} {g : α → β} {l : List α} (h : ∀ a ∈ l, f a = .ok (g a)) :
    l.mapM f = .ok (l.map g) := by
  induction l with
  | nil => rfl
  | cons a l ih =>
    obtain ⟨ha, hl⟩ := List.forall_mem_cons.mp h
    rw [List.mapM_cons, ha, ih hl]
    rfl

/-- A loop over a list is fine exactly if all its rounds are. -/
lemma fine_mapM_iff {f : α → Except ε β} {l : List α} :
    Fine (l.mapM f) ↔ ∀ a ∈ l, Fine (f a) := by
  refine ⟨fun h => ?_, Fine.mapM⟩
  induction l with
  | nil => exact fun a ha => absurd ha List.not_mem_nil
  | cons a l ih =>
    rw [List.mapM_cons] at h
    obtain ⟨b, hl⟩ := h.exists_of_bind
    exact List.forall_mem_cons.mpr ⟨h.of_bind, ih hl.of_bind⟩

/-- The computation has a value with a property. -/
def Yields (P : α → Prop) (m : Except ε α) : Prop := ∃ a, m = .ok a ∧ P a

section Yields

variable {P : α → Prop} {Q : β → Prop} {m : Except ε α} {f : α → Except ε β}

/-- What yields a value is fine. -/
lemma Yields.fine (h : Yields P m) : Fine m := by
  obtain ⟨a, ha, -⟩ := h
  exact ⟨a, ha⟩

/-- A value with the property is yielded. -/
lemma yields_pure {a : α} (h : P a) : Yields P (pure a : Except ε α) := ⟨a, rfl, h⟩

/-- The property of a sequence is that of its rest. -/
lemma Fine.bind_yields (hm : Fine m) (hf : ∀ a, Yields Q (f a)) : Yields Q (m >>= f) := by
  obtain ⟨a, ha⟩ := hm
  obtain ⟨b, hb, hQ⟩ := hf a
  exact ⟨b, bind_eq_ok_iff.mpr ⟨a, ha, hb⟩, hQ⟩

/-- A loop over a list has values with a property if its rounds have. -/
lemma yields_mapM {l : List α} (h : ∀ a ∈ l, Yields Q (f a)) :
    Yields (fun bs => ∀ b ∈ bs, Q b) (l.mapM f) := by
  induction l with
  | nil => exact yields_pure fun b hb => by cases hb
  | cons a l ih =>
    obtain ⟨b, hb, hQ⟩ := h a List.mem_cons_self
    obtain ⟨bs, hbs, hQs⟩ := ih fun a' ha' => h a' (List.mem_cons_of_mem a ha')
    refine ⟨b :: bs, ?_, List.forall_mem_cons.mpr ⟨hQ, hQs⟩⟩
    rw [List.mapM_cons]
    exact bind_eq_ok_iff.mpr ⟨b, hb, bind_eq_ok_iff.mpr ⟨bs, hbs, rfl⟩⟩

end Yields

/-- A value, or an error if a condition does not hold. -/
def guarded (p : Prop) [Decidable p] (e : ε) (a : α) : Except ε α := if p then .ok a else .error e

/-- A guarded value is there exactly if the condition holds. -/
@[simp] lemma guarded_eq_ok_iff {p : Prop} [Decidable p] {e : ε} {a b : α} :
    guarded p e a = .ok b ↔ p ∧ a = b := by
  rw [guarded]
  split
  · rename_i h
    simp [h]
  · rename_i h
    simp [h]

/-- A guarded value is fine exactly if the guard holds. -/
@[simp] lemma fine_guarded_iff {p : Prop} [Decidable p] {e : ε} {a : α} :
    Fine (guarded p e a) ↔ p := by
  simp [Fine]

/-- A guarded value, if the guard holds. -/
lemma guarded_of {p : Prop} [Decidable p] (h : p) (e : ε) (a : α) : guarded p e a = .ok a :=
  if_pos h

end Checked
