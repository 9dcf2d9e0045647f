import Mathlib.Data.Nat.Basic

set_option relaxedAutoImplicit false
set_option autoImplicit false

/-!
# Loops that may not end

A computation with fuel is a function from the fuel to a result, `none` if the fuel has run out. A
loop is given by what one round does: it goes on with another state, or leaves the loop with a
result. The library gives the rules for what such a loop returns, and for a loop that returns
nothing, however much fuel it has.

## Main definitions

* `Loop.Returns` — a computation with fuel returns a result.
* `Loop.run` — the rounds of a loop.

## Main results

* `Loop.Stable.unique` — a computation returns one result only.
* `Loop.returns_bind_iff` — what two computations return that run one after the other.
* `Loop.exists_returns` — the rule with an invariant and a variant: the loop ends.
* `Loop.of_returns` — the rule with an invariant alone.
* `Loop.not_returns` — a loop that never leaves a set of states returns nothing.
-/

namespace Loop

section Fuel

variable {R R' : Type}

/-- A computation with fuel returns a result. -/
def Returns (f : ℕ → Option R) (r : R) : Prop :=
  ∃ fuel, f fuel = some r

/-- More fuel does not change a result. -/
def Stable (f : ℕ → Option R) : Prop :=
  ∀ ⦃m n r⦄, m ≤ n → f m = some r → f n = some r

/-- A stable computation returns one result only. -/
lemma Stable.unique {f : ℕ → Option R} (hf : Stable f) {r r' : R} (h : Returns f r)
    (h' : Returns f r') : r = r' := by
  obtain ⟨m, hm⟩ := h
  obtain ⟨n, hn⟩ := h'
  have hmax := hf (Nat.le_max_left m n) hm
  rw [hf (Nat.le_max_right m n) hn] at hmax
  exact (Option.some.inj hmax).symm

/-- A computation that returns at once is stable. -/
lemma stable_some (r : R) : Stable fun _ => some r :=
  fun _ _ _ _ h => h

/-- What a computation returns that returns at once. -/
lemma returns_some_iff {r r' : R} : Returns (fun _ => some r) r' ↔ r' = r :=
  ⟨fun ⟨_, h⟩ => (Option.some.inj h).symm, fun h => ⟨0, congrArg some h.symm⟩⟩

/-- Stable computations that run one after the other are stable. -/
lemma Stable.bind {f : ℕ → Option R} {g : R → ℕ → Option R'} (hf : Stable f)
    (hg : ∀ r, Stable (g r)) : Stable fun fuel => (f fuel).bind fun r => g r fuel := by
  intro m n r' hmn h
  obtain ⟨r, hr, hr'⟩ := Option.bind_eq_some_iff.mp h
  exact Option.bind_eq_some_iff.mpr ⟨r, hf hmn hr, hg r hmn hr'⟩

/-- Two computations that run one after the other with the same fuel. -/
lemma returns_bind_iff {f : ℕ → Option R} {g : R → ℕ → Option R'} (hf : Stable f)
    (hg : ∀ r, Stable (g r)) {r' : R'} :
    Returns (fun fuel => (f fuel).bind fun r => g r fuel) r' ↔
      ∃ r, Returns f r ∧ Returns (g r) r' := by
  constructor
  · rintro ⟨fuel, h⟩
    obtain ⟨r, hr, hr'⟩ := Option.bind_eq_some_iff.mp h
    exact ⟨r, ⟨fuel, hr⟩, fuel, hr'⟩
  · rintro ⟨r, ⟨m, hm⟩, n, hn⟩
    exact ⟨max m n, Option.bind_eq_some_iff.mpr
      ⟨r, hf (Nat.le_max_left m n) hm, hg r (Nat.le_max_right m n) hn⟩⟩

/-- A computation whose result is mapped. -/
lemma returns_map_iff {f : ℕ → Option R} {g : R → R'} {r' : R'} :
    Returns (fun fuel => (f fuel).map g) r' ↔ ∃ r, Returns f r ∧ g r = r' := by
  constructor
  · rintro ⟨fuel, h⟩
    obtain ⟨r, hr, hr'⟩ := Option.map_eq_some_iff.mp h
    exact ⟨r, ⟨fuel, hr⟩, hr'⟩
  · rintro ⟨r, ⟨fuel, h⟩, hr'⟩
    exact ⟨fuel, Option.map_eq_some_iff.mpr ⟨r, h, hr'⟩⟩

end Fuel

section Rounds

variable {S R : Type} (round : S → S ⊕ R)

/-- The result of a loop that is left within as many rounds as there is fuel. -/
def run (s : S) : ℕ → Option R
  | 0 => none
  | fuel + 1 => match round s with
    | .inl s' => run s' fuel
    | .inr r => some r

variable {round}

/-- A loop is stable: more fuel does not change its result. -/
lemma stable_run (s : S) : Stable (run round s) := by
  intro m n r hmn h
  induction m generalizing n s with
  | zero => exact absurd h nofun
  | succ m ih =>
    obtain ⟨n, rfl⟩ := Nat.exists_eq_add_of_lt hmn
    unfold run at h ⊢
    cases hround : round s with
    | inl s' =>
      rw [hround] at h
      exact ih s' (Nat.le_add_right m n) h
    | inr r' =>
      rw [hround] at h
      exact h

/-- A loop returns what it returns from the state after one round. -/
lemma returns_of_inl {s s' : S} {r : R} (h : round s = .inl s') (hr : Returns (run round s') r) :
    Returns (run round s) r := by
  obtain ⟨fuel, hfuel⟩ := hr
  exact ⟨fuel + 1, by simp only [run, h, hfuel]⟩

/-- What a loop returns it returns from the state after one round, too. -/
lemma returns_inl {s s' : S} {r : R} (h : round s = .inl s') (hr : Returns (run round s) r) :
    Returns (run round s') r := by
  obtain ⟨fuel, hfuel⟩ := hr
  cases fuel with
  | zero => exact absurd hfuel nofun
  | succ fuel =>
    simp only [run, h] at hfuel
    exact ⟨fuel, hfuel⟩

/-- A loop that is left in the first round returns. -/
lemma returns_of_inr {s : S} {r : R} (h : round s = .inr r) : Returns (run round s) r :=
  ⟨1, by simp only [run, h]⟩

/-- A loop ends, if its rounds keep an invariant and decrease a variant. -/
lemma exists_returns {I : S → Prop} {Q : R → Prop} (variant : S → ℕ)
    (hround : ∀ s, I s → (∃ s', round s = .inl s' ∧ I s' ∧ variant s' < variant s) ∨
      ∃ r, round s = .inr r ∧ Q r) {s : S} (hs : I s) : ∃ r, Returns (run round s) r ∧ Q r := by
  induction hn : variant s using Nat.strongRecOn generalizing s with
  | _ n ih =>
    obtain ⟨s', hs', hinv, hlt⟩ | ⟨r, hr, hq⟩ := hround s hs
    · obtain ⟨r, hr, hq⟩ := ih _ (hn ▸ hlt) hinv rfl
      exact ⟨r, returns_of_inl hs' hr, hq⟩
    · exact ⟨r, returns_of_inr hr, hq⟩

/-- What a loop returns, if it returns, follows from an invariant of its rounds. -/
lemma of_returns {I : S → Prop} {Q : R → Prop}
    (hinl : ∀ {s s'}, I s → round s = .inl s' → I s')
    (hinr : ∀ {s r}, I s → round s = .inr r → Q r) {s : S} {r : R} (hs : I s)
    (hr : Returns (run round s) r) : Q r := by
  obtain ⟨fuel, hfuel⟩ := hr
  induction fuel generalizing s with
  | zero => exact absurd hfuel nofun
  | succ fuel ih =>
    unfold run at hfuel
    cases hround : round s with
    | inl s' =>
      rw [hround] at hfuel
      exact ih (hinl hs hround) hfuel
    | inr r' =>
      rw [hround] at hfuel
      exact Option.some.inj hfuel ▸ hinr hs hround

/-- A loop that cannot leave a set of states returns nothing. -/
lemma not_returns {I : S → Prop} (hround : ∀ s, I s → ∃ s', round s = .inl s' ∧ I s')
    {s : S} {r : R} (hs : I s) : ¬ Returns (run round s) r := by
  refine fun hr => of_returns (fun {s s'} hinv h => ?_) (fun {s r} hinv h => ?_) hs hr
    (Q := fun _ => False)
  · obtain ⟨s'', hs'', hinv'⟩ := hround s hinv
    rw [h] at hs''
    exact Sum.inl.inj hs'' ▸ hinv'
  · obtain ⟨s'', hs'', -⟩ := hround s hinv
    rw [h] at hs''
    exact absurd hs'' nofun

end Rounds

end Loop
