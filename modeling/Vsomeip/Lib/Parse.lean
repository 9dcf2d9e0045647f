import Mathlib.Tactic.Common

set_option relaxedAutoImplicit false
set_option autoImplicit false

/-!
# Parsers that keep their state when they fail

A parser over a state `σ` returns a value or fails, and hands on its state in both cases. This is
what a chain `ok = ok && read(x)` does in an imperative program: after the first failure nothing
more is read, and what was read before stays read.

## Main definitions

* `Parse` — the parsers over a state `σ`, a monad.
* `Parse.attempt` — run a parser and go on whether or not it failed.
* `Parse.get`, `Parse.modify` — look at the state and change it.
* `Parse.Keeps` — a parser keeps a property of the state.
* `Parse.Yields` — the values of a parser have a property.

## Main results

* `Parse.Keeps.bind`, `Parse.Keeps.attempt` — a property kept by the parts is kept by the whole.
* `Parse.Yields.bind` — what is known of a first value may be used for the second one.
-/

/-- A parser over the state `σ`: it returns `some` value or fails with `none`, and hands on the
state it has reached in both cases. -/
def Parse (σ α : Type) : Type := σ → Option α × σ

namespace Parse

variable {σ α β : Type}

/-- The parser that fails and leaves the state alone. -/
def fail : Parse σ α := fun s => (none, s)

/-- Run `m`, then `f` on its value; a failure of `m` ends the run in the state `m` has reached. -/
protected def bind (m : Parse σ α) (f : α → Parse σ β) : Parse σ β := fun s =>
  match m s with
  | (some a, s') => f a s'
  | (none, s') => (none, s')

instance : Monad (Parse σ) where
  pure a := fun s => (some a, s)
  bind := Parse.bind

/-- Run `m` and go on whether or not it failed. -/
def attempt (m : Parse σ α) : Parse σ (Option α) := fun s => (some (m s).1, (m s).2)

/-- The state as a value. -/
def get : Parse σ σ := fun s => (some s, s)

/-- Change the state. -/
def modify (g : σ → σ) : Parse σ Unit := fun s => (some (), g s)

/-- The parser that returns a value leaves the state alone. -/
@[simp] lemma pure_apply (a : α) (s : σ) : (pure a : Parse σ α) s = (some a, s) := rfl

/-- The run of a sequence, by the outcome of its first part. -/
lemma bind_apply (m : Parse σ α) (f : α → Parse σ β) (s : σ) :
    (m >>= f) s = match m s with
      | (some a, s') => f a s'
      | (none, s') => (none, s') := rfl

/-- A sequence whose first part succeeds goes on with the second part. -/
lemma bind_of_some {m : Parse σ α} {f : α → Parse σ β} {s s' : σ} {a : α}
    (h : m s = (some a, s')) : (m >>= f) s = f a s' := by
  rw [bind_apply, h]

/-- A sequence whose first part fails stops where that part stopped. -/
lemma bind_of_none {m : Parse σ α} {f : α → Parse σ β} {s s' : σ}
    (h : m s = (none, s')) : (m >>= f) s = (none, s') := by
  rw [bind_apply, h]

/-- A sequence fails with its first part. -/
lemma bind_fst_eq_none {m : Parse σ α} {f : α → Parse σ β} {s : σ} (h : (m s).1 = none) :
    ((m >>= f) s).1 = none := by
  have hm : m s = (none, (m s).2) := Prod.ext h rfl
  rw [bind_of_none hm]

/-- A sequence whose second part always fails, fails. -/
lemma bind_fst_eq_none_right {m : Parse σ α} {f : α → Parse σ β} (h : ∀ a s, (f a s).1 = none)
    (s : σ) : ((m >>= f) s).1 = none := by
  rcases hm : m s with ⟨_ | a, s'⟩
  · rw [bind_of_none hm]
  · rw [bind_of_some hm]
    exact h a s'

/-- An attempt succeeds in the state that the parser has reached. -/
@[simp] lemma attempt_apply (m : Parse σ α) (s : σ) : attempt m s = (some (m s).1, (m s).2) := rfl

/-- Looking at the state, then going on with it. -/
@[simp] lemma get_bind (f : σ → Parse σ β) (s : σ) : (get >>= f) s = f s s := rfl

/-- Changing the state, then going on. -/
@[simp] lemma modify_bind (g : σ → σ) (f : Unit → Parse σ β) (s : σ) :
    (modify g >>= f) s = f () (g s) := rfl

/-- An attempt hands on the outcome of the parser. -/
@[simp] lemma attempt_bind (m : Parse σ α) (f : Option α → Parse σ β) (s : σ) :
    (attempt m >>= f) s = f (m s).1 (m s).2 := rfl

/-- An attempt at a parser that succeeds. -/
lemma attempt_of_some {m : Parse σ α} {s s' : σ} {a : α} (h : m s = (some a, s')) :
    attempt m s = (some (some a), s') := by
  rw [attempt_apply, h]

/-! ## Properties kept by a parser -/

/-- The parser `m` keeps the property `I` of the state, whether it succeeds or fails. -/
def Keeps (I : σ → Prop) (m : Parse σ α) : Prop := ∀ s, I s → I (m s).2

namespace Keeps

variable {I : σ → Prop}

/-- Returning a value keeps every property. -/
lemma pure (a : α) : Keeps I (Pure.pure a : Parse σ α) := fun _ h => h

/-- Failing keeps every property. -/
lemma fail : Keeps I (Parse.fail : Parse σ α) := fun _ h => h

/-- A property kept by both parts of a sequence is kept by the sequence. -/
lemma bind {m : Parse σ α} {f : α → Parse σ β} (hm : Keeps I m) (hf : ∀ a, Keeps I (f a)) :
    Keeps I (m >>= f) := by
  intro s hs
  have h := hm s hs
  rcases hr : m s with ⟨_ | a, s'⟩
  · rw [bind_of_none hr]
    rwa [hr] at h
  · rw [bind_of_some hr]
    rw [hr] at h
    exact hf a s' h

/-- Looking at the state keeps every property. -/
lemma get : Keeps I (Parse.get : Parse σ σ) := fun _ h => h

/-- A change that keeps the property. -/
lemma modify {g : σ → σ} (hg : ∀ s, I s → I (g s)) : Keeps I (Parse.modify g) := hg

/-- An attempt keeps what the parser keeps. -/
lemma attempt {m : Parse σ α} (hm : Keeps I m) : Keeps I (Parse.attempt m) := fun s h => hm s h

end Keeps

/-! ## Properties of the values -/

/-- Every value that the parser `m` returns has the property `P`. -/
def Yields (P : α → Prop) (m : Parse σ α) : Prop := ∀ s a, (m s).1 = some a → P a

namespace Yields

variable {P : α → Prop} {Q : β → Prop}

/-- A value with the property may be returned. -/
lemma pure {a : α} (h : P a) : Yields P (Pure.pure a : Parse σ α) := by
  rintro s _ ⟨⟩
  exact h

/-- A parser that fails has no value to answer for. -/
lemma fail : Yields P (Parse.fail : Parse σ α) := fun _ _ h => nomatch h

/-- Every parser yields values of which nothing is asked. -/
lemma trivial (m : Parse σ α) : Yields (fun _ => True) m := fun _ _ _ => True.intro

/-- The values of a sequence are those of its second part, after a value of the first part. -/
lemma bind {m : Parse σ α} {f : α → Parse σ β} (hm : Yields P m) (hf : ∀ a, P a → Yields Q (f a)) :
    Yields Q (m >>= f) := by
  intro s b hb
  rcases hr : m s with ⟨_ | a, s'⟩
  · rw [bind_of_none hr] at hb
    cases hb
  · rw [bind_of_some hr] at hb
    exact hf a (hm s a (by rw [hr])) s' b hb

/-- The same if nothing has to be known of the first value. -/
lemma then_of {m : Parse σ α} {f : α → Parse σ β} (hf : ∀ a, Yields Q (f a)) : Yields Q (m >>= f) :=
  (trivial m).bind fun a _ => hf a

/-- A choice between two parsers, each of them under its condition. -/
lemma ite {p : Prop} [Decidable p] {m m' : Parse σ α} (hm : p → Yields P m) (hm' : ¬ p → Yields P m') :
    Yields P (if p then m else m') := by
  split_ifs with h
  · exact hm h
  · exact hm' h

/-- What an attempt has returned, if anything. -/
lemma attempt {m : Parse σ α} (hm : Yields P m) :
    Yields (fun o : Option α => ∀ a, o = some a → P a) (Parse.attempt m) := by
  rintro s _ ⟨⟩ a ha
  exact hm s a ha

end Yields

end Parse
