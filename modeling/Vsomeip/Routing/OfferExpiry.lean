import Mathlib.Data.PNat.Basic
import Mathlib.Data.Rat.Cast.Order
import Mathlib.Tactic.Linarith
import Vsomeip.Lib.Runs
import Vsomeip.Routing.OfferService

set_option relaxedAutoImplicit false
set_option autoImplicit false

/-!
# When an offer of a remote host expires

`add_routing_info` sets the time to live of a remote service, and a timer calls `update_routing_info`
once in a period. It takes a whole period off what is left, also at the first tick behind an offer, and
deletes the service when less than a period is left.

So a service is deleted at a fixed number of ticks behind its last offer, one more than there are whole
periods in its time to live. If the time to live is no multiple of the period and the offer came shortly
before a tick, this is too soon.

Times are in milliseconds. The ticks are at the multiples of the period; an offer comes with the time
since the last tick.

## Main definitions

* `Vsomeip.RemoteTtl.addRoutingInfo`, `Vsomeip.RemoteTtl.updateRoutingInfo` — the operations.
* `Vsomeip.RemoteTtl.InTime` — a tick deletes what has expired, and nothing else.
* `Vsomeip.RemoteTtl.NotTooSoon` — the tick that deletes a service comes when its time is over.

## Main results

* `Vsomeip.RemoteTtl.bind_updateTtl_remaining` — what is left after a number of ticks.
* `Vsomeip.RemoteTtl.inTime_along_iff` — when services are deleted in time.
* `Vsomeip.RemoteTtl.inTime_along_of_fits`, `Vsomeip.RemoteTtl.Event.fits_of_dvd` — they are if every
  offer comes early enough in its period, and at any time if the period divides the time to live.
-/

namespace Vsomeip

namespace RemoteTtl

/-- `DEFAULT_TTL`, which is forever. -/
def defaultTtl : UInt32 := 0xFFFFFF

/-- `serviceinfo::get_ttl` of a service with a precise time to live. -/
def getTtl (preciseTtl : ℕ) : ℕ := preciseTtl / 1000

/-- `serviceinfo::set_ttl`. -/
def setTtl (ttl : UInt32) : ℕ := ttl.toNat * 1000

/-- What `update_routing_info` does to the time to live of a service: the new one, if it is not
deleted. -/
def updateTtl (elapsed preciseTtl : ℕ) : Option ℕ :=
  if getTtl preciseTtl < defaultTtl.toNat then
    if preciseTtl < elapsed ∨ preciseTtl = 0 then none else some (preciseTtl - elapsed)
  else some preciseTtl

/-- The remote services with their precise times to live. -/
abbrev Services : Type := InstanceKey → Option ℕ

/-- `routing_manager_impl::add_routing_info`. -/
def addRoutingInfo (services : Services) (k : InstanceKey) (ttl : UInt32) : Services :=
  Function.update services k (some (setTtl ttl))

/-- `routing_manager_impl::update_routing_info`. -/
def updateRoutingInfo (elapsed : ℕ) (services : Services) : Services :=
  fun k => (services k).bind (updateTtl elapsed)

/-! ## Runs -/

/-- An offer, at a time since the last tick, or a tick of the timer. -/
inductive Event (p : ℕ+)
  | offer (k : InstanceKey) (ttl : UInt32) (phase : { x : ℚ // 0 ≤ x ∧ x ≤ p })
  | tick

/-- An offer, with its time and how many ticks there were before. -/
structure Offer where
  ttl : UInt32
  time : ℚ
  ticksBefore : ℕ

/-- The remote services, the number of ticks, and the last offer of each instance. -/
structure World where
  services : Services
  ticks : ℕ
  offers : InstanceKey → Option Offer

/-- No services. -/
def init : World := ⟨fun _ => none, 0, fun _ => none⟩

/-- The services after an event. -/
def step (p : ℕ+) (w : World) : Event p → World
  | .offer k ttl phase =>
    { w with
      services := addRoutingInfo w.services k ttl
      offers := Function.update w.offers k (some ⟨ttl, w.ticks * p + phase, w.ticks⟩) }
  | .tick => { w with services := updateRoutingInfo p w.services, ticks := w.ticks + 1 }

/-- The time from an offer to the next tick. -/
def World.sinceOffer (w : World) (p : ℕ+) (o : Offer) : ℚ := (w.ticks + 1) * p - o.time

/-- A tick deletes no service before its time to live is over, counted from its last offer, and it deletes
a service whose time to live is over for more than a period. -/
def InTime (p : ℕ+) (w : World) : Event p → Prop
  | .offer .. => True
  | .tick => ∀ k o, w.offers k = some o → o.ttl < defaultTtl →
    ((w.services k).isSome → updateRoutingInfo p w.services k = none → setTtl o.ttl ≤ w.sinceOffer p o) ∧
    (setTtl o.ttl + p < w.sinceOffer p o → updateRoutingInfo p w.services k = none)

/-- If a tick is preceded, since the last offer, by as many as there are whole periods in the time to
live, this is over. -/
def NotTooSoon (p : ℕ+) (w : World) : Event p → Prop
  | .offer .. => True
  | .tick => ∀ k o, w.offers k = some o → o.ttl < defaultTtl →
    w.ticks = o.ticksBefore + setTtl o.ttl / p → setTtl o.ttl ≤ w.sinceOffer p o

/-! ## What is left -/

/-- What is left of a time to live after a number of ticks. -/
def remaining (p : ℕ+) (ttl ticks : ℕ) : Option ℕ :=
  if ticks ≤ ttl / p then some (ttl - ticks * p) else none

/-- Something remains of a time to live until its last tick. -/
lemma isSome_remaining {p : ℕ+} {ttl ticks : ℕ} : (remaining p ttl ticks).isSome ↔ ticks ≤ ttl / p := by
  rw [remaining]
  split_ifs with h
  · exact iff_of_true rfl h
  · exact iff_of_false Bool.false_ne_true h

/-- **A tick takes a period off**, and deletes the service when no whole one is left. -/
lemma bind_updateTtl_remaining {p : ℕ+} {ttl ticks : ℕ} (hfinite : getTtl ttl < defaultTtl.toNat) :
    (remaining p ttl ticks).bind (updateTtl p) = remaining p ttl (ticks + 1) := by
  have hpos := p.pos
  have hle (n : ℕ) : n ≤ ttl / p ↔ n * p ≤ ttl := Nat.le_div_iff_mul_le hpos
  simp only [remaining, hle, Nat.succ_mul]
  by_cases hleft : ticks * p ≤ ttl
  · have hget : getTtl (ttl - ticks * p) < defaultTtl.toNat :=
      (Nat.div_le_div_right (Nat.sub_le _ _)).trans_lt hfinite
    rw [if_pos hleft, Option.bind_some, updateTtl, if_pos hget]
    by_cases hnext : ticks * p + p ≤ ttl
    · rw [if_pos hnext, if_neg (by omega), Nat.sub_sub]
    · rw [if_neg hnext, if_pos (by omega)]
  · rw [if_neg hleft, if_neg (by omega), Option.bind_none]

/-! ## The invariant -/

/-- An offer came in the period behind the ticks before it, and what is left of its time to live follows
from the number of ticks since then. -/
structure Tracked (p : ℕ+) (w : World) (k : InstanceKey) (o : Offer) : Prop where
  notBefore : o.ticksBefore * p ≤ o.time
  notAfter : o.time ≤ (o.ticksBefore + 1) * p
  ticks : o.ticksBefore ≤ w.ticks
  left : o.ttl < defaultTtl → w.services k = remaining p (setTtl o.ttl) (w.ticks - o.ticksBefore)

/-- All offers are tracked. -/
def Inv (p : ℕ+) (w : World) : Prop := ∀ k o, w.offers k = some o → Tracked p w k o

/-- A time to live is read back. -/
lemma getTtl_setTtl (ttl : UInt32) : getTtl (setTtl ttl) = ttl.toNat := by
  rw [getTtl, setTtl, Nat.mul_div_cancel _ (by decide)]

variable {p : ℕ+} {w : World} {k : InstanceKey} {o : Offer}

/-- A tick leaves the rest of the time to live one tick later. -/
lemma Tracked.updateRoutingInfo (h : Tracked p w k o) (hfinite : o.ttl < defaultTtl) :
    RemoteTtl.updateRoutingInfo p w.services k =
      remaining p (setTtl o.ttl) (w.ticks + 1 - o.ticksBefore) := by
  have hget : getTtl (setTtl o.ttl) < defaultTtl.toNat := by
    rw [getTtl_setTtl]
    exact UInt32.lt_iff_toNat_lt.mp hfinite
  rw [RemoteTtl.updateRoutingInfo, h.left hfinite, bind_updateTtl_remaining hget,
    Nat.succ_sub h.ticks]

/-- The invariant holds at the start. -/
lemma inv_init : Inv p init := fun _ _ h => nomatch h

/-- Every event keeps the offers tracked. -/
lemma Inv.step (h : Inv p w) (e : Event p) : Inv p (step p w e) := by
  intro k o ho
  cases e with
  | offer k' ttl phase =>
    obtain ⟨phase, hphase, hperiod⟩ := phase
    simp only [RemoteTtl.step] at ho
    by_cases hk : k = k'
    · subst hk
      rw [Function.update_self, Option.some.injEq] at ho
      subst ho
      refine ⟨le_add_of_nonneg_right hphase, ?_, le_rfl, fun _ => ?_⟩
      · rw [add_mul, one_mul]
        exact add_le_add_right hperiod _
      · have hnow : remaining p (setTtl ttl) (w.ticks - w.ticks) = some (setTtl ttl) := by
          rw [Nat.sub_self, remaining, if_pos (Nat.zero_le _), Nat.zero_mul, Nat.sub_zero]
        exact (Function.update_self ..).trans hnow.symm
    · rw [Function.update_of_ne hk] at ho
      have htracked := h k o ho
      refine ⟨htracked.notBefore, htracked.notAfter, htracked.ticks, fun hfinite => ?_⟩
      exact (Function.update_of_ne hk _ _).trans (htracked.left hfinite)
  | tick =>
    have htracked := h k o ho
    exact ⟨htracked.notBefore, htracked.notAfter, Nat.le_succ_of_le htracked.ticks,
      htracked.updateRoutingInfo⟩

/-- A tick deletes a service exactly if as many ticks came before it, since the last offer, as there are
whole periods in the time to live. -/
lemma Tracked.deletes_iff (h : Tracked p w k o) (hfinite : o.ttl < defaultTtl) :
    ((w.services k).isSome ∧ RemoteTtl.updateRoutingInfo p w.services k = none) ↔
      w.ticks = o.ticksBefore + setTtl o.ttl / p := by
  rw [h.left hfinite, h.updateRoutingInfo hfinite, isSome_remaining, ← Option.not_isSome_iff_eq_none,
    isSome_remaining]
  have hticks := h.ticks
  omega

/-- A service whose time to live is over for more than a period is not there any more. -/
lemma Tracked.deleted (h : Tracked p w k o) (hfinite : o.ttl < defaultTtl)
    (hover : setTtl o.ttl + p < w.sinceOffer p o) :
    RemoteTtl.updateRoutingInfo p w.services k = none := by
  rw [h.updateRoutingInfo hfinite, ← Option.not_isSome_iff_eq_none, isSome_remaining, not_le]
  have hticks := h.ticks
  have hnotBefore := h.notBefore
  have hmul : setTtl o.ttl < (w.ticks - o.ticksBefore) * p := by
    have hcast : ((setTtl o.ttl : ℕ) : ℚ) < ((w.ticks - o.ticksBefore : ℕ) : ℚ) * p := by
      rw [Nat.cast_sub hticks]
      rw [World.sinceOffer] at hover
      linarith
    exact_mod_cast hcast
  have hlt := (Nat.div_lt_iff_lt_mul p.pos).mpr hmul
  omega

/-- One event is in time if and only if it is not too soon. -/
lemma Inv.inTime_iff (h : Inv p w) {e : Event p} : InTime p w e ↔ NotTooSoon p w e := by
  cases e with
  | offer => exact Iff.rfl
  | tick =>
    constructor
    · intro htime k o ho hfinite hticks
      obtain ⟨hsome, hnone⟩ := ((h k o ho).deletes_iff hfinite).mpr hticks
      exact (htime k o ho hfinite).1 hsome hnone
    · intro hsoon k o ho hfinite
      refine ⟨fun hsome hnone => ?_, (h k o ho).deleted hfinite⟩
      exact hsoon k o ho hfinite (((h k o ho).deletes_iff hfinite).mp ⟨hsome, hnone⟩)

/-- **Services are deleted in time along a run** if and only if no tick comes too soon: of the ticks since
an offer, the one behind as many as there are whole periods in the time to live does not come before
this is over. -/
theorem inTime_along_iff (p : ℕ+) (events : List (Event p)) :
    Runs.Along (step p) (InTime p) init events ↔ Runs.Along (step p) (NotTooSoon p) init events := by
  refine @Runs.along_iff _ _ (step p) (Inv p) (fun _ _ => True) (NotTooSoon p) (InTime p)
    (fun hw _ hsoon => ⟨hw.step _, hw.inTime_iff.mpr hsoon⟩)
    (fun hw _ hsoon htime => hsoon (hw.inTime_iff.mp htime)) _ _ inv_init
    (Runs.along_of_forall (P := fun _ => True) fun _ _ => trivial)

/-! ## Offers that are never deleted too soon -/

/-- The time to live of an offer ends, counted from its time since the last tick, not after the tick that
deletes the service. -/
def Event.Fits (p : ℕ+) : Event p → Prop
  | .offer _ ttl phase => phase.1 + setTtl ttl ≤ (setTtl ttl / p + 1 : ℕ) * p
  | .tick => True

/-- All offers so far came at such times. -/
def AllFit (p : ℕ+) (w : World) : Prop :=
  ∀ k o, w.offers k = some o → o.time + setTtl o.ttl ≤ (o.ticksBefore + setTtl o.ttl / p + 1 : ℕ) * p

/-- All times to live still fit after one that fits. -/
lemma AllFit.step (h : AllFit p w) {e : Event p} (he : e.Fits) : AllFit p (step p w e) := by
  intro k o ho
  cases e with
  | offer k' ttl phase =>
    simp only [RemoteTtl.step] at ho
    by_cases hk : k = k'
    · subst hk
      rw [Function.update_self, Option.some.injEq] at ho
      subst ho
      rw [Event.Fits] at he
      push_cast at he ⊢
      linarith
    · rw [Function.update_of_ne hk] at ho
      exact h k o ho
  | tick => exact h k o ho

/-- No offer expires too soon if all times to live fit. -/
lemma AllFit.notTooSoon (h : AllFit p w) {e : Event p} : NotTooSoon p w e := by
  cases e with
  | offer => trivial
  | tick =>
    intro k o ho _ hticks
    have hfit := h k o ho
    rw [← hticks] at hfit
    rw [World.sinceOffer]
    push_cast at hfit
    linarith

/-- **Services are deleted in time** if all offers come at times that fit. -/
theorem inTime_along_of_fits {events : List (Event p)} (h : ∀ e ∈ events, e.Fits) :
    Runs.Along (step p) (InTime p) init events := by
  rw [inTime_along_iff]
  refine @Runs.along_of_inv _ _ (step p) (AllFit p) (fun _ e => e.Fits) (NotTooSoon p)
    (fun hw he => ⟨hw.step he, hw.notTooSoon⟩) _ _ (fun _ _ h => nomatch h) (Runs.along_of_forall h)

/-- An offer fits whenever it comes, if the period divides its time to live. -/
lemma Event.fits_of_dvd {k : InstanceKey} {ttl : UInt32} {phase : { x : ℚ // 0 ≤ x ∧ x ≤ p }}
    (h : (p : ℕ) ∣ setTtl ttl) : (Event.offer k ttl phase).Fits := by
  have hmul : ((setTtl ttl / p + 1 : ℕ) : ℚ) * p = setTtl ttl + p := by
    have hnat : (setTtl ttl / p + 1) * (p : ℕ) = setTtl ttl + p := by
      rw [Nat.add_mul, Nat.div_mul_cancel h, Nat.one_mul]
    exact_mod_cast hnat
  rw [Event.Fits, hmul, add_comm]
  exact add_le_add_right phase.2.2 _

/-! ## A period of 600 milliseconds -/

/-- **An offer that expires too soon**: with a period of 600 milliseconds an offer for a second comes one
millisecond before the first tick, and the second tick deletes the service, 601 milliseconds after it. -/
theorem not_inTime_along_late : ¬ ∀ (p : ℕ+) (events : List (Event p)),
    Runs.Along (step p) (InTime p) init events := by
  intro h
  obtain ⟨-, -, htick, -⟩ := h 600 [.offer (0x1234, 1) 1 ⟨599, by norm_num⟩, .tick, .tick]
  have hsince := (htick (0x1234, 1) ⟨1, ((0 : ℕ) : ℚ) * ((600 : ℕ+) : ℕ) + 599, 0⟩ rfl (by decide)).1
    (by decide) (by decide)
  have httl : setTtl 1 = 1000 := rfl
  norm_num [World.sinceOffer, step, init, httl] at hsince

end RemoteTtl

end Vsomeip
