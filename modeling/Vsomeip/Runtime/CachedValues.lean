import Vsomeip.Lib.History
import Vsomeip.Runtime.NotificationGate

set_option relaxedAutoImplicit false
set_option autoImplicit false

/-!
# Cached values of repeated subscriptions

A subscription that is repeated gets the cached values if its flag is set, which should mean that a
notification was received that the subscription covers, since it was made and since the service instance
was lost last. The flags say so as long as every notification sets the flags of all subscriptions that
cover it, and values that are sent back set no flag of another subscription.

## Main definitions

* `Vsomeip.SubscriptionAction.step` — what happens to the subscriptions of an application.
* `Vsomeip.SubscriptionAction.IsSubscribed`, `HasReceived` — what the history says.
* `Vsomeip.AnswersRight` — what is promised after a history.
* `Vsomeip.SubscriptionAction.Good` — the actions that set the right flags.

## Main results

* `Vsomeip.isSubscribed_iff` — the table holds what is subscribed.
* `Vsomeip.answersRight_iff` — the promise is kept at all times, exactly if all actions are good.
-/

namespace Vsomeip

/-! ## What an application does -/

/-- What happens to the subscriptions of an application: calls of `subscribe`, with what is found of
cached values, and of `unsubscribe`, which takes `ANY_EVENT` if no event is given, notifications that
are received, and service instances that are lost. -/
inductive SubscriptionAction
  | subscribe (x : EventSubscription) (cached : List UInt16)
  | unsubscribe (x : EventSubscription)
  | notification (service inst event : UInt16)
  | unavailable (service inst : UInt16)
deriving DecidableEq, Repr

namespace SubscriptionAction

variable (groups : EventgroupsOf)

/-- One action. -/
def step (subs : EventSubscriptions) : SubscriptionAction → EventSubscriptions
  | subscribe x cached => subs.subscribe groups x cached
  | unsubscribe x => subs.removeSubscription x
  | notification service inst event => (subs.checkForActiveSubscription groups service inst event).2
  | unavailable service inst => subs.resetFlags service inst

/-- The table after a history. -/
def state (h : List SubscriptionAction) : EventSubscriptions := Runs.run (step groups) ∅ h

/-- The action is a notification that the subscription covers. -/
def CoveredBy (x : EventSubscription) : SubscriptionAction → Prop
  | notification service inst event => x.service = service ∧ x.inst = inst ∧
      (x.event = event ∨ x.event = anyEvent ∧ x.eventgroup ∈ groups service inst event)
  | _ => False

/-- A notification sets the flags of all subscriptions that cover it, unless they are set. A value that
is sent back sets no flag that is not set. -/
def Good (subs : EventSubscriptions) : SubscriptionAction → Prop
  | subscribe x cached => subs.flag x = some true →
      ∀ e ∈ EventSubscriptions.sent x cached, ∀ y, subs.Sets groups x.service x.inst e y →
        subs.flag y = some true
  | notification service inst event => ∀ x, (notification service inst event).CoveredBy groups x →
      subs.flag x = some false → subs.Sets groups service inst event x
  | _ => True

/-- It was subscribed and is not unsubscribed. -/
def IsSubscribed (x : EventSubscription) (h : List SubscriptionAction) : Prop :=
  History.Since (fun _ a => ∃ cached, a = .subscribe x cached) (fun a => a = .unsubscribe x) h

/-- A notification that the subscription covers was received since it was made and since the service
instance was lost last. -/
def HasReceived (x : EventSubscription) (h : List SubscriptionAction) : Prop :=
  History.Since (fun pre a => a.CoveredBy groups x ∧ IsSubscribed x pre)
    (fun a => a = .unsubscribe x ∨ a = .unavailable x.service x.inst) h

end SubscriptionAction

open SubscriptionAction EventSubscriptions

/-- What an application is promised after a history: a notification passes if it is covered by what is
subscribed, and a subscription that is repeated gets cached values if a notification was received. -/
structure AnswersRight (groups : EventgroupsOf) (h : List SubscriptionAction) : Prop where
  gate : ∀ s i e,
    ((state groups h).checkForActiveSubscription groups s i e).1 = true ↔
      ∃ g, IsSubscribed ⟨s, i, e, g⟩ h ∨ IsSubscribed ⟨s, i, anyEvent, g⟩ h ∧ g ∈ groups s i e
  cached : ∀ x, IsSubscribed x h →
    ((state groups h).sendsBack x = true ↔ HasReceived groups x h)

section History

variable {groups : EventgroupsOf} {h : List SubscriptionAction} {a : SubscriptionAction}
  {x : EventSubscription}

/-- The state after one action more. -/
lemma state_concat : state groups (h ++ [a]) = step groups (state groups h) a :=
  History.run_concat (step groups) ∅ h a

/-- Whether a subscription is there after one action more. -/
lemma isSubscribed_concat : IsSubscribed x (h ++ [a]) ↔
    (∃ cached, a = .subscribe x cached) ∨ a ≠ .unsubscribe x ∧ IsSubscribed x h :=
  History.since_concat

/-- Whether a value was received after one action more. -/
lemma hasReceived_concat : HasReceived groups x (h ++ [a]) ↔
    a.CoveredBy groups x ∧ IsSubscribed x h ∨
      ¬ (a = .unsubscribe x ∨ a = .unavailable x.service x.inst) ∧ HasReceived groups x h :=
  History.since_concat

/-- What was received belongs to a subscription that there is. -/
lemma SubscriptionAction.HasReceived.isSubscribed : HasReceived groups x h → IsSubscribed x h := by
  induction h using List.reverseRecOn with
  | nil => exact fun hr => absurd hr History.not_since_nil
  | append_singleton h a ih =>
    rw [hasReceived_concat, isSubscribed_concat]
    rintro (⟨hcovered, hsub⟩ | ⟨hno, hr⟩)
    · refine Or.inr ⟨?_, hsub⟩
      rintro rfl
      exact hcovered
    · exact Or.inr ⟨fun hunsub => hno (Or.inl hunsub), ih hr⟩

/-- A notification that sets a flag covers the subscription. -/
lemma EventSubscriptions.Sets.coveredBy {subs : EventSubscriptions} {s i e : UInt16}
    (hsets : subs.Sets groups s i e x) : CoveredBy groups x (.notification s i e) :=
  ⟨hsets.1, hsets.2.1, hsets.event⟩

/-! ## The table and the history -/

/-- No history leaves an empty map. -/
lemma pruned_state (groups : EventgroupsOf) (h : List SubscriptionAction) :
    Pruned (state groups h) := by
  induction h using List.reverseRecOn with
  | nil => exact pruned_empty
  | append_singleton h a ih =>
    rw [state_concat]
    cases a with
    | subscribe x cached => exact ih.subscribe
    | unsubscribe x => exact ih.removeSubscription x
    | notification s i e => exact ih.checkForActiveSubscription groups s i e
    | unavailable s i => exact ih.resetFlags s i

/-- The table holds what is subscribed. -/
lemma isSubscribed_iff (groups : EventgroupsOf) (x : EventSubscription) (h : List SubscriptionAction) :
    IsSubscribed x h ↔ ((state groups h).flag x).isSome := by
  induction h using List.reverseRecOn with
  | nil =>
    refine iff_of_false History.not_since_nil ?_
    simp [state, Runs.run, flag, find]
  | append_singleton h a ih =>
    have hp := pruned_state groups h
    rw [isSubscribed_concat, state_concat, ih]
    cases a with
    | subscribe y cached =>
      have hmade : (∃ cached', SubscriptionAction.subscribe y cached = .subscribe x cached') ↔
          x = y := by
        constructor
        · rintro ⟨cached', heq⟩
          exact (SubscriptionAction.subscribe.inj heq).1.symm
        · rintro rfl
          exact ⟨cached, rfl⟩
      rw [step, isSome_flag_subscribe hp, hmade]
      exact or_congr_right (and_iff_right SubscriptionAction.noConfusion)
    | unsubscribe y =>
      rw [step, flag_removeSubscription]
      by_cases heq : x = y
      · simp [heq]
      · simp [heq, Ne.symm heq]
    | notification s i e =>
      rw [step, isSome_flag_checkForActiveSubscription hp]
      simp
    | unavailable s i =>
      rw [step, flag_resetFlags]
      split_ifs <;> simp

/-- The promise speaks about the flags. -/
lemma answersRight_iff_flag (groups : EventgroupsOf) (h : List SubscriptionAction) :
    AnswersRight groups h ↔ ∀ x, (state groups h).flag x = some true ↔ HasReceived groups x h := by
  constructor
  · intro hright x
    constructor
    · intro hflag
      have hsub : IsSubscribed x h := (isSubscribed_iff groups x h).mpr (by rw [hflag]; rfl)
      exact (hright.cached x hsub).mp (sendsBack_iff.mpr hflag)
    · exact fun hreceived => sendsBack_iff.mp ((hright.cached x hreceived.isSubscribed).mpr hreceived)
  · refine fun hflag => ⟨fun s i e => ?_, fun x _ => sendsBack_iff.trans (hflag x)⟩
    rw [checkForActiveSubscription_iff (pruned_state groups h)]
    simp only [isSubscribed_iff groups]

/-! ## One more action -/

section Step

variable {subs : EventSubscriptions}

/-- A notification sets the right flags exactly if it sets those of all subscriptions that cover it. -/
lemma forall_flag_notification_iff (hp : subs.Pruned) (s i e : UInt16) :
    (∀ x, (step groups subs (.notification s i e)).flag x = some true ↔
        CoveredBy groups x (.notification s i e) ∧ (subs.flag x).isSome ∨ subs.flag x = some true) ↔
      Good groups subs (.notification s i e) := by
  constructor
  · intro hall x hcovered hfalse
    by_contra hnot
    have hkeep := (flag_checkForActiveSubscription hp groups s i e x).2 hnot
    have htrue := (hall x).mpr (Or.inl ⟨hcovered, by rw [hfalse]; rfl⟩)
    rw [step, hkeep, hfalse] at htrue
    exact absurd htrue (by decide)
  · intro hgood x
    obtain ⟨hset, hkeep⟩ := flag_checkForActiveSubscription hp groups s i e x
    by_cases hsets : subs.Sets groups s i e x
    · exact iff_of_true (hset hsets) (Or.inl ⟨hsets.coveredBy, hsets.2.2.1⟩)
    · rw [step, hkeep hsets]
      refine ⟨Or.inr, fun h => h.elim (fun ⟨hcovered, hsome⟩ => ?_) id⟩
      obtain ⟨v, hv⟩ := Option.isSome_iff_exists.mp hsome
      cases v with
      | false => exact absurd (hgood x hcovered hv) hsets
      | true => exact hv

/-- `subscribe` sets no flags exactly if what is sent back sets none that is not set. -/
lemma forall_flag_subscribe_iff (hp : subs.Pruned) (y : EventSubscription) (cached : List UInt16) :
    (∀ x, (step groups subs (.subscribe y cached)).flag x = some true ↔ subs.flag x = some true) ↔
      Good groups subs (.subscribe y cached) := by
  by_cases hflag : subs.flag y = some true
  · constructor
    · intro hall _ e he x hsets
      exact (hall x).mp ((flag_subscribe_of_eq hp hflag groups cached x).1 ⟨e, he, hsets⟩)
    · intro hgood x
      obtain ⟨hset, hkeep⟩ := flag_subscribe_of_eq hp hflag groups cached x
      by_cases hsets : ∃ e ∈ sent y cached, subs.Sets groups y.service y.inst e x
      · obtain ⟨e, he, hx⟩ := id hsets
        exact iff_of_true (hset hsets) (hgood hflag e he x hx)
      · rw [step, hkeep fun e he hx => hsets ⟨e, he, hx⟩]
  · refine iff_of_true (fun x => ?_) fun htrue => absurd htrue hflag
    rw [step, flag_subscribe_of_ne hflag]
    split_ifs with heq
    · exact iff_of_false (by decide) (heq ▸ hflag)
    · exact Iff.rfl

end Step

/-- After one more action the flags are right exactly if it is a good one. -/
lemma answersRight_concat_iff (hright : AnswersRight groups h) :
    AnswersRight groups (h ++ [a]) ↔ Good groups (state groups h) a := by
  have hp := pruned_state groups h
  rw [answersRight_iff_flag] at hright ⊢
  simp only [state_concat, hasReceived_concat, isSubscribed_iff groups, ← hright]
  cases a with
  | subscribe y cached =>
    rw [← forall_flag_subscribe_iff hp]
    simp [CoveredBy]
  | unsubscribe y =>
    refine iff_of_true (fun x => ?_) trivial
    rw [step, flag_removeSubscription]
    by_cases heq : x = y
    · simp [heq, CoveredBy]
    · simp [heq, Ne.symm heq, CoveredBy]
  | notification s i e =>
    rw [← forall_flag_notification_iff hp]
    simp
  | unavailable s i =>
    refine iff_of_true (fun x => ?_) trivial
    rw [step, flag_resetFlags]
    by_cases hsame : x.service = s ∧ x.inst = i
    · simp [hsame.1, hsame.2, CoveredBy]
    · have hother : ¬ SubscriptionAction.unavailable s i = .unavailable x.service x.inst := by
        rintro heq
        exact hsame ⟨(SubscriptionAction.unavailable.inj heq).1.symm,
          (SubscriptionAction.unavailable.inj heq).2.symm⟩
      simp [hsame, hother, CoveredBy]

/-- **Cached values.** For every history and any eventgroups of the events: at all times, a notification
passes exactly if it is covered by what is subscribed, and a subscription that is repeated gets cached
values exactly if a notification was received for it, if and only if every notification sets the flags of
all subscriptions that cover it, and values that are sent back set none that is not set.

**Proof sketch.** The table holds what is subscribed, so the gate is right at all times, and the rest of
the promise says that the flags are those of the subscriptions for which a notification was received. If
they are so before an action, then they are so after it exactly if it is good; the rule for properties
that only good actions keep gives all prefixes of the history. -/
theorem answersRight_iff (groups : EventgroupsOf) (h : List SubscriptionAction) :
    (∀ p, p <+: h → AnswersRight groups p) ↔
      ∀ pre a post, h = pre ++ a :: post → Good groups (state groups pre) a := by
  refine History.forall_prefix_iff ?_ (fun h a hright => answersRight_concat_iff hright) h
  rw [answersRight_iff_flag]
  refine fun x => iff_of_false ?_ fun hr => History.not_since_nil hr
  simp [state, Runs.run, flag, find]

/-- The event belongs to two eventgroups. -/
def twoEventgroups : EventgroupsOf := fun _ _ event => if event = 0x8001 then [1, 2] else []

/-- The first eventgroup is subscribed with `ANY_EVENT` and the event through the second one, and a
notification of the event is received: when the first subscription is repeated, nothing is sent back. -/
theorem not_answersRight_hidden : ¬ AnswersRight twoEventgroups
    [.subscribe ⟨0x1234, 1, anyEvent, 1⟩ [], .subscribe ⟨0x1234, 1, 0x8001, 2⟩ [],
      .notification 0x1234 1 0x8001] := by
  intro hright
  have hsub : IsSubscribed ⟨0x1234, 1, anyEvent, 1⟩
      [.subscribe ⟨0x1234, 1, anyEvent, 1⟩ [], .subscribe ⟨0x1234, 1, 0x8001, 2⟩ []] :=
    ⟨[], _, _, rfl, ⟨[], rfl⟩, by decide⟩
  have hcovered : CoveredBy twoEventgroups ⟨0x1234, 1, anyEvent, 1⟩ (.notification 0x1234 1 0x8001) :=
    ⟨rfl, rfl, Or.inr ⟨rfl, by decide⟩⟩
  have hreceived : HasReceived twoEventgroups ⟨0x1234, 1, anyEvent, 1⟩
      [.subscribe ⟨0x1234, 1, anyEvent, 1⟩ [], .subscribe ⟨0x1234, 1, 0x8001, 2⟩ [],
        .notification 0x1234 1 0x8001] :=
    ⟨[.subscribe ⟨0x1234, 1, anyEvent, 1⟩ [], .subscribe ⟨0x1234, 1, 0x8001, 2⟩ []], _, [], rfl,
      ⟨hcovered, hsub⟩, by simp⟩
  have hsent := (hright.cached _ hreceived.isSubscribed).mpr hreceived
  exact absurd hsent (by decide)

end History

end Vsomeip
