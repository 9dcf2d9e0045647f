import Mathlib.Data.List.Basic

set_option relaxedAutoImplicit false
set_option autoImplicit false

/-!
# Runs of a state machine

A state machine is a function `step` from a state and an action to the next state, and a run is a
state with a list of actions. The library gives the rules by which a property is proved of every
step of every run: from an invariant that all steps keep, or from one that all good steps keep.

## Main definitions

* `Runs.run` — the last state of a run.
* `Runs.Along` — a property of a state and an action holds at every step of a run.

## Main results

* `Runs.inv_run`, `Runs.inv_run_of_along` — an invariant that the steps keep holds in the last state
  of a run.
* `Runs.along_of_inv` — a property that an invariant gives holds along every run.
* `Runs.run_iff_along` — if good steps keep an invariant, a bad step breaks it and nothing repairs it,
  then it holds in the last state exactly if all steps are good.
* `Runs.along_iff` — if an invariant is kept by the good steps and a bad step breaks the property at
  once, the property holds along a run exactly if all of its steps are good.
-/

namespace Runs

variable {S A : Type} (step : S → A → S)

/-- The last state of a run. -/
def run : S → List A → S
  | s, [] => s
  | s, a :: as => run (step s a) as

/-- `P` holds at every step of a run, of the state in which the step is taken and of its action. -/
def Along (P : S → A → Prop) : S → List A → Prop
  | _, [] => True
  | s, a :: as => P s a ∧ Along P (step s a) as

variable {step} {I : S → Prop} {E Good Q : S → A → Prop}

/-- A run in two parts. -/
lemma run_append (s : S) (as bs : List A) : run step s (as ++ bs) = run step (run step s as) bs := by
  induction as generalizing s with
  | nil => rfl
  | cons a as ih => exact ih (step s a)

/-- A property along a run in two parts. -/
lemma along_append {P : S → A → Prop} (s : S) (as bs : List A) :
    Along step P s (as ++ bs) ↔ Along step P s as ∧ Along step P (run step s as) bs := by
  induction as generalizing s with
  | nil => exact (and_iff_right trivial).symm
  | cons a as ih => exact (and_congr_right fun _ => ih (step s a)).trans and_assoc.symm

/-- A property holds along a run if it holds at each of its steps, in the state that the steps before
lead to. -/
lemma along_iff_forall {P : S → A → Prop} {s : S} {as : List A} : Along step P s as ↔
    ∀ pre a post, as = pre ++ a :: post → P (run step s pre) a := by
  constructor
  · rintro h pre a post rfl
    exact ((along_append s pre (a :: post)).mp h).2.1
  · intro h
    induction as generalizing s with
    | nil => trivial
    | cons a as ih =>
      refine ⟨h [] a as rfl, ih fun pre b post hsplit => ?_⟩
      exact h (a :: pre) b post (congrArg (a :: ·) hsplit)

/-- A property of all actions of a run holds along it. -/
lemma along_of_forall {P : A → Prop} : ∀ {as : List A} {s : S}, (∀ a ∈ as, P a) →
    Along step (fun _ a => P a) s as
  | [], _, _ => trivial
  | a :: _, _, h =>
    ⟨h a List.mem_cons_self, along_of_forall fun b hb => h b (List.mem_cons_of_mem a hb)⟩

/-- What an invariant gives at one step holds along every run. -/
lemma along_of_inv (h : ∀ {s a}, I s → E s a → I (step s a) ∧ Q s a) :
    ∀ {as : List A} {s : S}, I s → Along step E s as → Along step Q s as
  | [], _, _, _ => trivial
  | _ :: _, _, hs, hen => ⟨(h hs hen.1).2, along_of_inv h (h hs hen.1).1 hen.2⟩

/-- What the steps of a run keep holds in its last state. -/
lemma inv_run {P : A → Prop} (h : ∀ {s a}, I s → P a → I (step s a)) {as : List A} {s : S}
    (hs : I s) (has : ∀ a ∈ as, P a) : I (run step s as) := by
  induction as generalizing s with
  | nil => exact hs
  | cons a as ih =>
    obtain ⟨ha, has⟩ := List.forall_mem_cons.mp has
    exact ih (h hs ha) has

/-- What the good steps keep holds in the last state of a run of good steps. -/
lemma inv_run_of_along (h : ∀ {s a}, I s → Good s a → I (step s a)) {as : List A} {s : S}
    (hs : I s) (hgood : Along step Good s as) : I (run step s as) := by
  induction as generalizing s with
  | nil => exact hs
  | cons a as ih => exact ih (h hs hgood.1) hgood.2

/-- The rule for an invariant that a bad step breaks for good.

**Proof sketch.** Induction on the run. After a good step the invariant holds and both sides speak about
the rest of the run; after a bad one it does not hold, neither then nor in the last state. -/
lemma run_iff_along (hgood : ∀ {s a}, I s → Good s a → I (step s a))
    (hbad : ∀ {s a}, ¬ Good s a → ¬ I (step s a)) (hstay : ∀ {s a}, ¬ I s → ¬ I (step s a)) :
    ∀ {as : List A} {s : S}, I s → (I (run step s as) ↔ Along step Good s as)
  | [], _, hs => iff_of_true hs trivial
  | a :: as, s, hs => by
    by_cases h : Good s a
    · exact (run_iff_along hgood hbad hstay (hgood hs h)).trans (and_iff_right h).symm
    · have hlast : ¬ I (run step (step s a) as) :=
        inv_run (I := fun s => ¬ I s) (P := fun _ => True) (fun hs _ => hstay hs) (hbad h)
          fun _ _ => trivial
      exact iff_of_false hlast fun halong => h halong.1

/-- The rule for a machine with bad steps.

**Proof sketch.** Induction on the run. A good step keeps the invariant and has the property, so
that both sides speak about the rest of the run; a bad one makes both sides false. -/
lemma along_iff (hgood : ∀ {s a}, I s → E s a → Good s a → I (step s a) ∧ Q s a)
    (hbad : ∀ {s a}, I s → E s a → ¬ Good s a → ¬ Q s a) :
    ∀ {as : List A} {s : S}, I s → Along step E s as →
      (Along step Q s as ↔ Along step Good s as)
  | [], _, _, _ => Iff.rfl
  | a :: as, s, hs, hen => by
    by_cases h : Good s a
    · obtain ⟨hinv, hq⟩ := hgood hs hen.1 h
      have ih := along_iff hgood hbad hinv hen.2
      exact ⟨fun ⟨_, hrest⟩ => ⟨h, ih.mp hrest⟩, fun ⟨_, hrest⟩ => ⟨hq, ih.mpr hrest⟩⟩
    · exact ⟨fun ⟨hq, _⟩ => absurd hq (hbad hs hen.1 h), fun ⟨hg, _⟩ => absurd hg h⟩

end Runs
