import Mathlib.Data.List.Infix
import Vsomeip.Lib.Runs

set_option relaxedAutoImplicit false
set_option autoImplicit false

/-!
# Histories

What a component must know is often what has happened since something else: a request that was not
withdrawn, a value that was received and is not outdated. A history is the list of all actions so far,
the last one at its end, and the properties here are read from it without a state.

## Main definitions

* `History.Since` — something has happened, and something else has not happened any more.

## Main results

* `History.since_concat` — how one more action changes that.
* `History.run_concat` — the state after one more action.
* `History.forall_prefix_iff` — a property that one more action keeps exactly if it is a good one holds
  at all times exactly if all actions are good ones.
-/

namespace History

variable {A S : Type} {P : List A → A → Prop} {Q : A → Prop} {h : List A} {a : A}

/-- At some time an action was taken with the property `P` of what was before, and after it none with
the property `Q`. -/
def Since (P : List A → A → Prop) (Q : A → Prop) (h : List A) : Prop :=
  ∃ pre a post, h = pre ++ a :: post ∧ P pre a ∧ ∀ b ∈ post, ¬ Q b

/-- Nothing holds since the beginning of an empty history. -/
lemma not_since_nil : ¬ Since P Q [] := by
  rintro ⟨pre, a, post, hsplit, -⟩
  exact absurd (congrArg List.length hsplit) (by simp)

/-- An action of a longer history is the last one, or one of the history before. -/
lemma concat_eq_append_cons_iff {pre post : List A} {b : A} : h ++ [a] = pre ++ b :: post ↔
    pre = h ∧ b = a ∧ post = [] ∨ ∃ post', post = post' ++ [a] ∧ h = pre ++ b :: post' := by
  constructor
  · intro hsplit
    rcases List.eq_nil_or_concat post with rfl | ⟨post, c, rfl⟩
    · obtain ⟨rfl, heq⟩ := List.append_inj' hsplit rfl
      exact Or.inl ⟨rfl, (List.singleton_inj.mp heq).symm, rfl⟩
    · rw [List.concat_eq_append, ← List.cons_append, ← List.append_assoc] at hsplit
      obtain ⟨rfl, heq⟩ := List.append_inj' hsplit rfl
      exact Or.inr ⟨post, by rw [List.concat_eq_append, heq], rfl⟩
  · rintro (⟨rfl, rfl, rfl⟩ | ⟨post', rfl, rfl⟩)
    · rfl
    · rw [List.append_assoc, List.cons_append]

/-- The last action begins it, or it goes on. -/
lemma since_concat : Since P Q (h ++ [a]) ↔ P h a ∨ ¬ Q a ∧ Since P Q h := by
  constructor
  · rintro ⟨pre, b, post, hsplit, hP, hQ⟩
    rcases concat_eq_append_cons_iff.mp hsplit with ⟨rfl, rfl, -⟩ | ⟨post', rfl, hsplit'⟩
    · exact Or.inl hP
    · refine Or.inr ⟨hQ a (by simp), pre, b, post', hsplit', hP, fun c hc => hQ c ?_⟩
      exact List.mem_append_left _ hc
  · rintro (hP | ⟨hQ, pre, b, post, rfl, hP, hpost⟩)
    · exact ⟨h, a, [], rfl, hP, by simp⟩
    · refine ⟨pre, b, post ++ [a], by simp, hP, fun c hc => ?_⟩
      rw [List.mem_append, List.mem_singleton] at hc
      rcases hc with hc | rfl
      · exact hpost c hc
      · exact hQ

/-- The state after one more action. -/
lemma run_concat (step : S → A → S) (s : S) (h : List A) (a : A) :
    Runs.run step s (h ++ [a]) = step (Runs.run step s h) a :=
  Runs.run_append s h [a]

/-- The rule for a property of histories that only good actions keep.

**Proof sketch.** Induction on the history, from its end. The prefixes of a longer history are those of
the history and the longer one itself; the actions in it are those of the history and the last one. If
the property holds of the history, then it holds of the longer one exactly if the last action is good. -/
lemma forall_prefix_iff {C : List A → Prop} {Good : List A → A → Prop} (hnil : C [])
    (hstep : ∀ h a, C h → (C (h ++ [a]) ↔ Good h a)) (h : List A) :
    (∀ p, p <+: h → C p) ↔ ∀ pre a post, h = pre ++ a :: post → Good pre a := by
  induction h using List.reverseRecOn with
  | nil =>
    refine iff_of_true (fun p hp => ?_) fun pre a post hsplit => ?_
    · rwa [List.prefix_nil.mp hp]
    · exact absurd (congrArg List.length hsplit) (by simp)
  | append_singleton h a ih =>
    have hprefixes : (∀ p, p <+: h ++ [a] → C p) ↔ (∀ p, p <+: h → C p) ∧ C (h ++ [a]) := by
      constructor
      · exact fun hall => ⟨fun p hp => hall p (hp.trans (List.prefix_append h [a])),
          hall _ List.prefix_rfl⟩
      · rintro ⟨hall, hlast⟩ p hp
        rcases List.prefix_concat_iff.mp hp with rfl | hp
        · exact hlast
        · exact hall p hp
    have hsplits : (∀ pre b post, h ++ [a] = pre ++ b :: post → Good pre b) ↔
        (∀ pre b post, h = pre ++ b :: post → Good pre b) ∧ Good h a := by
      constructor
      · intro hall
        refine ⟨?_, hall h a [] rfl⟩
        rintro pre b post rfl
        exact hall pre b (post ++ [a]) (by simp)
      · rintro ⟨hall, hlast⟩ pre b post hsplit
        rcases concat_eq_append_cons_iff.mp hsplit with ⟨rfl, rfl, -⟩ | ⟨post', -, hsplit'⟩
        · exact hlast
        · exact hall pre b post' hsplit'
    rw [hprefixes, hsplits, ← ih]
    exact and_congr_right fun hall => hstep h a (hall h List.prefix_rfl)

end History
