import Mathlib.Data.Finset.Insert
import Mathlib.Data.Finset.Filter
import Mathlib.Data.Multiset.MapFold
import Vsomeip.Lib.Runs
import Vsomeip.Routing.InsertSubscription

set_option relaxedAutoImplicit false
set_option autoImplicit false

/-!
# Subscriptions of clients that are not known yet

A proxy asks its application about every SUBSCRIBE of a local client, and answers the client when the
application has answered, which may take any time. While the client is not known from a ROUTING_INFO,
its SUBSCRIBEs are parked in `pending_incoming_subscripitons_`. Every ROUTING_INFO replays the parked
subscriptions of the known clients, and the answer of the application for one of them erases the entry
of the client. Each SUBSCRIBE should be answered once, and the subscriptions should be the same as if
the client had been known from the start.

But the parked subscriptions are a set, which does not keep a second SUBSCRIBE; an UNSUBSCRIBE does not
look at them, neither before nor after their replay, until the answer erases them; and until the
application has answered, the next ROUTING_INFO replays them again. A
replay does not ask the security policy, by which a SUBSCRIBE of a known client is skipped without an
answer. In runs in which none of this matters, the client cannot tell the difference.

The proxy is compared with a reference that knows all clients, and whose application gives the same
answers at the same time. The clients are local ones, whose subscriptions have the id
`DEFAULT_SUBSCRIPTION`; that a client deregisters is not part of a run. The major version of a
subscription is left out, because nothing reads it, and so are the notifications with current values.

## Main definitions

* `Vsomeip.IncomingSubscriptions.step` — the commands, and the answers of the application.
* `Vsomeip.SubscribingWorld.step` — the same for the proxy and its reference.
* `Vsomeip.SubscribingWorld.Agrees` — what is expected of a state.
* `Vsomeip.SubscribingWorld.Undisturbed` — the condition on a step.

## Main results

* `Vsomeip.SubscribingWorld.world_agrees_along_iff` — the states of a run are as expected exactly if its
  steps meet the condition.
* `Vsomeip.SubscribingWorld.Agrees.count_answered` — then every SUBSCRIBE of a known client is answered
  once, when the application has given all answers.
-/

namespace Vsomeip

/-! ## The proxy -/

/-- `subscription_data_t`, as far as its `operator<` compares it. -/
structure SubscriptionData where
  service : ServiceKey
  eventgroup : UInt16
  event : UInt16
deriving DecidableEq

/-- A SUBSCRIBE, with its client. -/
abbrev ClientSubscription : Type := UInt16 × SubscriptionData

/-- The subscriptions that an UNSUBSCRIBE withdraws, in whole or in part. -/
def Withdraws (s s' : ClientSubscription) : Prop :=
  s.1 = s'.1 ∧ s.2.service = s'.2.service ∧ s.2.eventgroup = s'.2.eventgroup ∧
    (s.2.event = anyEvent ∨ s'.2.event = anyEvent ∨ s.2.event = s'.2.event)

instance (s s' : ClientSubscription) : Decidable (Withdraws s s') :=
  inferInstanceAs (Decidable (_ ∧ _))

/-- A call of `on_subscription` that the application has not answered. The answer to a replay erases
the entry of the client. -/
structure SubscriptionHandler where
  subscription : ClientSubscription
  isReplay : Bool
deriving DecidableEq

/-- What the clients notice: the events with their subscribers, and the answers that were sent. -/
structure SubscriptionOutcome where
  registry : EventRegistry
  answers : List (ClientSubscription × Bool)

/-- The members of `routing_manager_proxy` that are about incoming subscriptions, and the calls of the
application that are open. -/
structure IncomingSubscriptions extends SubscriptionOutcome where
  known : UInt16 → Bool
  pending : Finset ClientSubscription
  handlers : Multiset SubscriptionHandler

/-- The policy and the debounce functions of the configuration. -/
structure IncomingConfig where
  isClientAllowed : UInt16 → ServiceKey → Bool
  debounce : ServiceKey → UInt16 → List UInt8 → List UInt8 → Bool

/-- What happens at a proxy: commands, a ROUTING_INFO with the clients that it adds, and an answer of
the application. -/
inductive IncomingEvent
  | subscribe (s : ClientSubscription)
  | unsubscribe (s : ClientSubscription)
  | routingInfo (clients : List UInt16)
  | answer (handler : SubscriptionHandler) (accepted : Bool)

/-- `routing_manager_base::unsubscribe`. -/
def EventRegistry.unsubscribe (r : EventRegistry) (s : ClientSubscription) : EventRegistry :=
  if s.2.event ≠ anyEvent then
    match r.events s.2.service s.2.event with
    | some p => r.write p ((r.objects p).removeSubscriber s.2.eventgroup s.1)
    | none => r
  else r.modifyAll (r.findEvents s.2.service s.2.eventgroup) fun ev =>
    ev.removeSubscriber s.2.eventgroup s.1

/-- `routing_manager_base::subscribe`. -/
def EventRegistry.subscribe (r : EventRegistry) (cfg : IncomingConfig) (s : ClientSubscription) :
    EventRegistry :=
  (r.insertSubscription (cfg.debounce s.2.service s.2.event) false s.2.service s.2.eventgroup s.2.event
    s.1).1

namespace IncomingSubscriptions

variable (cfg : IncomingConfig) (t : IncomingSubscriptions)

/-- `VSOMEIP_SUBSCRIBE` of a local client. -/
def onSubscribe (s : ClientSubscription) : IncomingSubscriptions :=
  if t.known s.1 then
    if cfg.isClientAllowed s.1 s.2.service then { t with handlers := ⟨s, false⟩ ::ₘ t.handlers } else t
  else { t with pending := insert s t.pending }

/-- `VSOMEIP_UNSUBSCRIBE` of a local client. -/
def onUnsubscribe (s : ClientSubscription) : IncomingSubscriptions :=
  { t with registry := t.registry.unsubscribe s }

/-- The parked subscriptions of the known clients are replayed. -/
def replay : IncomingSubscriptions :=
  { t with
    handlers := t.handlers + (t.pending.filter fun s => t.known s.1).val.map fun s => ⟨s, true⟩ }

/-- `on_routing_info` with the clients that are added. -/
def onRoutingInfo (clients : List UInt16) : IncomingSubscriptions :=
  { t with known := fun c => c ∈ clients ∨ t.known c }.replay

/-- The callback of `on_subscription`. -/
def onAnswer (handler : SubscriptionHandler) (accepted : Bool) : IncomingSubscriptions :=
  { t with
    handlers := t.handlers.erase handler
    answers := t.answers ++ [(handler.subscription, accepted)]
    registry := if accepted then t.registry.subscribe cfg handler.subscription else t.registry
    pending := if handler.isReplay then
      t.pending.filter fun s => s.1 ≠ handler.subscription.1 else t.pending }

/-- An event at the proxy. -/
def step (t : IncomingSubscriptions) : IncomingEvent → IncomingSubscriptions
  | .subscribe s => t.onSubscribe cfg s
  | .unsubscribe s => t.onUnsubscribe s
  | .routingInfo clients => t.onRoutingInfo clients
  | .answer handler accepted => t.onAnswer cfg handler accepted

/-- The parked subscriptions that were not replayed: those of clients that are not known. -/
def waiting : Multiset ClientSubscription :=
  (t.pending.filter fun s => ¬ t.known s.1).val

/-- The subscriptions that are open: those that wait, and those for which the application is asked. -/
def opened : Multiset ClientSubscription :=
  t.handlers.map SubscriptionHandler.subscription + t.waiting

/-- Calls of the application are taken back. -/
def drop (subscriptions : Multiset ClientSubscription) : IncomingSubscriptions :=
  { t with handlers := t.handlers - subscriptions.map fun s => ⟨s, false⟩ }

end IncomingSubscriptions

/-! ## The reference -/

/-- A proxy, a reference that knows all clients, and the SUBSCRIBEs that are to be answered: those that
the policy allows, without the parked ones that were withdrawn. -/
structure SubscribingWorld where
  proxy : IncomingSubscriptions
  reference : IncomingSubscriptions
  received : Multiset ClientSubscription

namespace SubscribingWorld

variable (cfg : IncomingConfig)

/-- The start of a run, in which some clients may be known. -/
def init (known : UInt16 → Bool) (registry : EventRegistry) : SubscribingWorld where
  proxy := ⟨⟨registry, []⟩, known, ∅, 0⟩
  reference := ⟨⟨registry, []⟩, fun _ => true, ∅, 0⟩
  received := 0

/-- The parked subscriptions that an UNSUBSCRIBE withdraws, be they replayed or not. -/
def withdrawn (w : SubscribingWorld) (s : ClientSubscription) : Multiset ClientSubscription :=
  (w.proxy.pending.filter (Withdraws s)).val

/-- An event at both. The application answers calls that are open, to the reference at the same time.
At the reference, for which nothing is parked, the calls for withdrawn subscriptions are dropped. -/
def step (w : SubscribingWorld) : IncomingEvent → SubscribingWorld
  | .subscribe s =>
    { proxy := w.proxy.step cfg (.subscribe s)
      reference := w.reference.step cfg (.subscribe s)
      received := if cfg.isClientAllowed s.1 s.2.service then s ::ₘ w.received else w.received }
  | .unsubscribe s =>
    { proxy := w.proxy.step cfg (.unsubscribe s)
      reference := (w.reference.step cfg (.unsubscribe s)).drop (w.withdrawn s)
      received := w.received - w.withdrawn s }
  | .routingInfo clients =>
    { w with
      proxy := w.proxy.step cfg (.routingInfo clients)
      reference := w.reference.step cfg (.routingInfo clients) }
  | .answer handler accepted =>
    if handler ∈ w.proxy.handlers then
      { w with
        proxy := w.proxy.step cfg (.answer handler accepted)
        reference := w.reference.step cfg (.answer ⟨handler.subscription, false⟩ accepted) }
    else w

/-- The SUBSCRIBEs that were answered. -/
def answered (w : SubscribingWorld) : Multiset ClientSubscription :=
  ↑(w.proxy.answers.map Prod.fst)

/-- Every SUBSCRIBE is answered once or open, and the answers, the subscriptions and what is open are
those of the reference. -/
structure Agrees (w : SubscribingWorld) : Prop where
  once : w.answered + w.proxy.opened = w.received
  outcome : w.proxy.toSubscriptionOutcome = w.reference.toSubscriptionOutcome
  opened : w.proxy.opened = w.reference.opened

/-- The condition on an event: a SUBSCRIBE that has to be parked is allowed and not parked already, an
UNSUBSCRIBE is not about a subscription that is still parked, and no parked subscription of a known
client is left when a ROUTING_INFO comes. -/
def Undisturbed (w : SubscribingWorld) : IncomingEvent → Prop
  | .subscribe s =>
    w.proxy.known s.1 ∨ (cfg.isClientAllowed s.1 s.2.service ∧ s ∉ w.proxy.pending)
  | .unsubscribe s => ∀ s' ∈ w.proxy.pending, ¬ Withdraws s s'
  | .routingInfo _ => ∀ s ∈ w.proxy.pending, ¬ w.proxy.known s.1
  | .answer _ _ => True

end SubscribingWorld

/-! ## What is open -/

namespace IncomingSubscriptions

variable {cfg : IncomingConfig} {t : IncomingSubscriptions} {s : ClientSubscription}

/-- A SUBSCRIBE of a known client that is allowed goes to the handler. -/
lemma onSubscribe_of_allowed (hknown : t.known s.1) (hallowed : cfg.isClientAllowed s.1 s.2.service) :
    t.onSubscribe cfg s = { t with handlers := ⟨s, false⟩ ::ₘ t.handlers } := by
  rw [onSubscribe, if_pos hknown, if_pos hallowed]

/-- A SUBSCRIBE of a known client that is not allowed is dropped. -/
lemma onSubscribe_of_denied (hknown : t.known s.1) (hdenied : ¬ cfg.isClientAllowed s.1 s.2.service) :
    t.onSubscribe cfg s = t := by
  rw [onSubscribe, if_pos hknown, if_neg hdenied]

/-- A SUBSCRIBE of an unknown client is parked. -/
lemma onSubscribe_of_unknown (hknown : ¬ t.known s.1) :
    t.onSubscribe cfg s = { t with pending := insert s t.pending } :=
  if_neg hknown

/-- A SUBSCRIBE of a known client opens its subscription. -/
lemma opened_onSubscribe_of_allowed (hknown : t.known s.1)
    (hallowed : cfg.isClientAllowed s.1 s.2.service) :
    (t.onSubscribe cfg s).opened = s ::ₘ t.opened := by
  rw [onSubscribe_of_allowed hknown hallowed, opened, opened, Multiset.map_cons, Multiset.cons_add]
  rfl

/-- A SUBSCRIBE that is parked opens its subscription. -/
lemma opened_onSubscribe_of_unknown (hknown : ¬ t.known s.1) (hs : s ∉ t.pending) :
    (t.onSubscribe cfg s).opened = s ::ₘ t.opened := by
  have hwaiting : ({ t with pending := insert s t.pending } : IncomingSubscriptions).waiting =
      s ::ₘ t.waiting := by
    unfold waiting
    dsimp only
    rw [Finset.filter_insert, if_pos hknown]
    exact Finset.insert_val_of_notMem fun h => hs (Finset.mem_filter.mp h).1
  rw [onSubscribe_of_unknown hknown, opened, opened, hwaiting, Multiset.add_cons]

/-- A ROUTING_INFO leaves every parked subscription open, be it replayed or not. -/
lemma opened_onRoutingInfo (t : IncomingSubscriptions) (clients : List UInt16) :
    (t.onRoutingInfo clients).opened =
      t.handlers.map SubscriptionHandler.subscription + t.pending.val := by
  unfold onRoutingInfo replay opened waiting
  dsimp only
  rw [Multiset.map_add, Multiset.map_map, Multiset.add_assoc, Finset.filter_val, Finset.filter_val]
  exact congrArg _ ((congrArg (· + _) (Multiset.map_id _)).trans (Multiset.filter_add_not _ _))

/-- While the parked clients are unknown, each of their subscriptions is opened once. -/
lemma opened_eq_of_unknown (h : ∀ s ∈ t.pending, ¬ t.known s.1) :
    t.opened = t.handlers.map SubscriptionHandler.subscription + t.pending.val := by
  rw [opened, waiting, Finset.filter_true_of_mem h]

/-- The answer to a call closes it. The entry of a client that is erased does not wait, because the
client is known. -/
lemma opened_onAnswer (cfg : IncomingConfig) {handler : SubscriptionHandler} (hmem : handler ∈ t.handlers)
    (hreplay : handler.isReplay → t.known handler.subscription.1) (accepted : Bool) :
    (t.onAnswer cfg handler accepted).opened = t.opened.erase handler.subscription := by
  have hwaiting : (t.onAnswer cfg handler accepted).waiting = t.waiting := by
    unfold waiting onAnswer
    dsimp only
    by_cases h : handler.isReplay
    · rw [if_pos h, Finset.filter_filter]
      refine congrArg _ (Finset.filter_congr fun s _ => and_iff_right_of_imp fun hunknown heq => ?_)
      exact hunknown (heq ▸ hreplay h)
    · rw [if_neg h]
  have herase := Multiset.map_erase_of_mem SubscriptionHandler.subscription _ hmem
  rw [opened, hwaiting, opened, Multiset.erase_add_left_pos _ (Multiset.mem_map_of_mem _ hmem)]
  exact congrArg (· + _) herase

/-- No handler is dropped. -/
lemma drop_zero : t.drop 0 = t := by
  unfold drop
  rw [Multiset.map_zero, Multiset.sub_zero]

/-- A parked subscription that a ROUTING_INFO finds replayed already is open twice. -/
lemma card_opened_lt_onRoutingInfo (hs : s ∈ t.pending) (hknown : t.known s.1) (clients : List UInt16) :
    t.opened.card < (t.onRoutingInfo clients).opened.card := by
  have hwaiting : t.waiting.card < t.pending.val.card :=
    Finset.card_lt_card (Finset.filter_ssubset.mpr ⟨s, hs, not_not_intro hknown⟩)
  rw [opened_onRoutingInfo, opened, Multiset.card_add, Multiset.card_add]
  exact Nat.add_lt_add_left hwaiting _

/-- A SUBSCRIBE decides nothing yet. -/
lemma outcome_onSubscribe (t : IncomingSubscriptions) (cfg : IncomingConfig) (s : ClientSubscription) :
    (t.onSubscribe cfg s).toSubscriptionOutcome = t.toSubscriptionOutcome := by
  unfold onSubscribe
  split_ifs <;> rfl

/-- The calls that replay the parked subscriptions of the known clients. -/
def replays (t : IncomingSubscriptions) : Multiset SubscriptionHandler :=
  (t.pending.filter fun s => t.known s.1).val.map fun s => ⟨s, true⟩

/-- Only allowed subscriptions are parked, only those of known clients are replayed, and while a
subscription of a known client is parked, its replay is open. -/
structure Sound (cfg : IncomingConfig) (t : IncomingSubscriptions) : Prop where
  allowed : ∀ s ∈ t.pending, cfg.isClientAllowed s.1 s.2.service
  replay : ∀ handler ∈ t.handlers, handler.isReplay → t.known handler.subscription.1
  replayed : t.replays ≤ t.handlers

namespace Sound

/-- A SUBSCRIBE keeps the state sound. -/
lemma onSubscribe (h : t.Sound cfg) (hallowed : t.known s.1 ∨ cfg.isClientAllowed s.1 s.2.service) :
    (t.onSubscribe cfg s).Sound cfg := by
  unfold IncomingSubscriptions.onSubscribe
  split_ifs with hknown
  · exact ⟨h.allowed, Multiset.forall_mem_cons.mpr ⟨fun hreplay => absurd hreplay nofun, h.replay⟩,
      h.replayed.trans (Multiset.le_cons_self _ _)⟩
  · exact h
  · refine ⟨Finset.forall_mem_insert _ _ _ |>.mpr ⟨hallowed.resolve_left hknown, h.allowed⟩, h.replay,
      ?_⟩
    unfold replays
    dsimp only
    rw [Finset.filter_insert, if_neg hknown]
    exact h.replayed

/-- A ROUTING_INFO keeps the state sound. -/
lemma onRoutingInfo (h : t.Sound cfg) (clients : List UInt16) : (t.onRoutingInfo clients).Sound cfg where
  allowed := h.allowed
  replay handler hmem hreplay := by
    rcases Multiset.mem_add.mp hmem with hmem | hmem
    · exact decide_eq_true (Or.inr (h.replay handler hmem hreplay))
    · obtain ⟨s, hs, rfl⟩ := Multiset.mem_map.mp hmem
      exact (Finset.mem_filter.mp hs).2
  replayed := Multiset.le_add_left _ _

/-- The answer to a replay closes this call, and erases the entry of its client. -/
lemma replays_onAnswer_le (h : t.replays ≤ t.handlers) (handler : SubscriptionHandler)
    (accepted : Bool) : (t.onAnswer cfg handler accepted).replays ≤ t.handlers.erase handler := by
  have hle : (t.onAnswer cfg handler accepted).replays ≤ t.replays := by
    refine Multiset.map_le_map (Finset.val_le_iff.mpr (Finset.filter_subset_filter _ ?_))
    change (if handler.isReplay then _ else t.pending) ⊆ t.pending
    split_ifs
    · exact Finset.filter_subset _ _
    · exact subset_rfl
  have hnotMem : handler ∉ (t.onAnswer cfg handler accepted).replays := by
    intro hmem
    obtain ⟨s, hs, rfl⟩ := Multiset.mem_map.mp hmem
    exact (Finset.mem_filter.mp (Finset.mem_filter.mp hs).1).2 rfl
  rw [← Multiset.erase_of_notMem hnotMem]
  exact Multiset.erase_le_erase _ (hle.trans h)

/-- An answer of the application keeps the state sound. -/
lemma onAnswer (h : t.Sound cfg) (handler : SubscriptionHandler) (accepted : Bool) :
    (t.onAnswer cfg handler accepted).Sound cfg where
  allowed s hs := by
    refine h.allowed s ?_
    change s ∈ (if handler.isReplay then _ else t.pending) at hs
    split_ifs at hs
    · exact (Finset.mem_filter.mp hs).1
    · exact hs
  replay handler' hmem := h.replay handler' (Multiset.mem_of_mem_erase hmem)
  replayed := replays_onAnswer_le h.replayed handler accepted

/-- Every parked subscription is open: it waits, or its replay is not answered. -/
lemma pending_le_opened (h : t.Sound cfg) : t.pending.val ≤ t.opened := by
  have hsplit : t.pending.val = t.replays.map SubscriptionHandler.subscription + t.waiting := by
    unfold replays waiting
    rw [Multiset.map_map, Finset.filter_val, Finset.filter_val]
    exact (Multiset.filter_add_not _ _).symm.trans (congrArg (· + _) (Multiset.map_id _).symm)
  rw [hsplit]
  exact Multiset.add_le_add_right (Multiset.map_le_map h.replayed)

end Sound

/-- A proxy that knows all clients, which parks and replays nothing. -/
structure KnowsAll (t : IncomingSubscriptions) : Prop where
  known : ∀ c, t.known c
  pending : t.pending = ∅
  direct : ∀ handler ∈ t.handlers, handler.isReplay = false

namespace KnowsAll

/-- If all clients are known, the opened subscriptions are those with a handler. -/
lemma opened_eq (h : t.KnowsAll) : t.opened = t.handlers.map SubscriptionHandler.subscription := by
  rw [opened, waiting, h.pending, Finset.filter_empty]
  exact Multiset.add_zero _

/-- What is open is a call that is not a replay. -/
lemma mem_handlers (h : t.KnowsAll) (hs : s ∈ t.opened) : ⟨s, false⟩ ∈ t.handlers := by
  rw [h.opened_eq] at hs
  obtain ⟨handler, hmem, rfl⟩ := Multiset.mem_map.mp hs
  rw [← h.direct handler hmem]
  exact hmem

/-- A SUBSCRIBE parks nothing if all clients are known. -/
lemma onSubscribe (h : t.KnowsAll) (s : ClientSubscription) : (t.onSubscribe cfg s).KnowsAll := by
  unfold IncomingSubscriptions.onSubscribe
  rw [if_pos (h.known s.1)]
  split_ifs
  · exact ⟨h.known, h.pending, Multiset.forall_mem_cons.mpr ⟨rfl, h.direct⟩⟩
  · exact h

/-- A ROUTING_INFO keeps all clients known. -/
lemma onRoutingInfo (h : t.KnowsAll) (clients : List UInt16) : (t.onRoutingInfo clients).KnowsAll where
  known c := decide_eq_true (Or.inr (h.known c))
  pending := h.pending
  direct handler hmem := by
    refine (Multiset.mem_add.mp hmem).elim (h.direct handler) fun hreplay => ?_
    obtain ⟨s, hs, -⟩ := Multiset.mem_map.mp hreplay
    have hpending : s ∈ t.pending := (Finset.mem_filter.mp hs).1
    rw [h.pending] at hpending
    exact absurd hpending (Finset.notMem_empty s)

/-- A ROUTING_INFO opens nothing if all clients are known. -/
lemma opened_onRoutingInfo (h : t.KnowsAll) (clients : List UInt16) :
    (t.onRoutingInfo clients).opened = t.opened := by
  rw [IncomingSubscriptions.opened_onRoutingInfo, h.opened_eq, h.pending]
  exact Multiset.add_zero _

/-- An answer keeps all clients known. -/
lemma onAnswer (h : t.KnowsAll) (s : ClientSubscription) (accepted : Bool) :
    (t.onAnswer cfg ⟨s, false⟩ accepted).KnowsAll where
  known := h.known
  pending := h.pending
  direct handler hmem := h.direct handler (Multiset.mem_of_mem_erase hmem)

end KnowsAll

end IncomingSubscriptions

/-! ## Runs -/

namespace SubscribingWorld

variable {cfg : IncomingConfig} {w : SubscribingWorld} {s : ClientSubscription}

/-- The invariant of a run without disturbances. -/
structure Inv (cfg : IncomingConfig) (w : SubscribingWorld) : Prop where
  agrees : w.Agrees
  sound : w.proxy.Sound cfg
  knowsAll : w.reference.KnowsAll

/-- The invariant holds at the start. -/
lemma inv_init (known : UInt16 → Bool) (registry : EventRegistry) : (init known registry).Inv cfg where
  agrees := ⟨rfl, rfl, rfl⟩
  sound := ⟨fun _ h => absurd h (Finset.notMem_empty _), fun _ h => absurd h (Multiset.notMem_zero _),
    le_rfl⟩
  knowsAll := ⟨fun _ => rfl, rfl, fun _ h => absurd h (Multiset.notMem_zero _)⟩

/-- What is answered depends on the outcome only. -/
lemma answered_eq {w' : SubscribingWorld}
    (hproxy : w'.proxy.toSubscriptionOutcome = w.proxy.toSubscriptionOutcome) :
    w'.answered = w.answered := by
  unfold answered
  rw [hproxy]

/-- An event that changes no outcome and opens the same subscriptions at both. -/
lemma Agrees.open {w' : SubscribingWorld} (h : w.Agrees)
    (hproxy : w'.proxy.toSubscriptionOutcome = w.proxy.toSubscriptionOutcome)
    (hreference : w'.reference.toSubscriptionOutcome = w.reference.toSubscriptionOutcome)
    (new : Multiset ClientSubscription) (hopened : w'.proxy.opened = new + w.proxy.opened)
    (hopened' : w'.reference.opened = new + w.reference.opened)
    (hreceived : w'.received = new + w.received) : w'.Agrees where
  once := by
    rw [answered_eq hproxy, hopened, hreceived, ← h.once, ← Multiset.add_assoc, ← Multiset.add_assoc,
      Multiset.add_comm w.answered]
  outcome := by rw [hproxy, hreference, h.outcome]
  opened := by rw [hopened, hopened', h.opened]

/-- An event that gives no answer opens as many subscriptions as are to be answered, or spoils the
agreement. -/
lemma Agrees.not_agrees {w' : SubscribingWorld} (h : w.Agrees)
    (hproxy : w'.proxy.toSubscriptionOutcome = w.proxy.toSubscriptionOutcome)
    (hcard : w'.proxy.opened.card + w.received.card ≠ w.proxy.opened.card + w'.received.card) :
    ¬ w'.Agrees := by
  intro h'
  have honce := congrArg Multiset.card h.once
  have honce' := congrArg Multiset.card h'.once
  rw [Multiset.card_add] at honce honce'
  rw [answered_eq hproxy] at honce'
  omega

/-! ### The events -/

/-- A SUBSCRIBE that is allowed is opened by both, if the proxy knows the client or parks the
subscription; one that is not allowed is skipped by both, if the proxy knows the client. -/
lemma Inv.subscribe (h : w.Inv cfg) (hgood : w.Undisturbed cfg (.subscribe s)) :
    (w.step cfg (.subscribe s)).Inv cfg where
  agrees := by
    have hproxy := w.proxy.outcome_onSubscribe cfg s
    have hreference := w.reference.outcome_onSubscribe cfg s
    by_cases hallowed : cfg.isClientAllowed s.1 s.2.service
    · refine h.agrees.open hproxy hreference {s} ?_ ?_ (if_pos hallowed)
      · by_cases hknown : w.proxy.known s.1
        · exact IncomingSubscriptions.opened_onSubscribe_of_allowed hknown hallowed
        · exact IncomingSubscriptions.opened_onSubscribe_of_unknown hknown (hgood.resolve_left hknown).2
      · exact IncomingSubscriptions.opened_onSubscribe_of_allowed (h.knowsAll.known s.1) hallowed
    · have hskip {t : IncomingSubscriptions} (hknown : t.known s.1) :
          (t.onSubscribe cfg s).opened = 0 + t.opened := by
        rw [IncomingSubscriptions.onSubscribe_of_denied hknown hallowed, Multiset.zero_add]
      refine h.agrees.open hproxy hreference 0 (hskip ?_) (hskip (h.knowsAll.known s.1)) ?_
      · exact hgood.resolve_right fun h => hallowed h.1
      · exact (if_neg hallowed).trans (Multiset.zero_add _).symm
  sound := h.sound.onSubscribe (hgood.imp_right And.left)
  knowsAll := h.knowsAll.onSubscribe s

/-- A SUBSCRIBE that is parked already is lost, and one that is not allowed is parked. -/
lemma Inv.not_subscribe (h : w.Inv cfg) (hbad : ¬ w.Undisturbed cfg (.subscribe s)) :
    ¬ (w.step cfg (.subscribe s)).Agrees := by
  obtain ⟨hknown, hparked⟩ := not_or.mp hbad
  refine h.agrees.not_agrees (w.proxy.outcome_onSubscribe cfg s) ?_
  change (w.proxy.onSubscribe cfg s).opened.card + w.received.card ≠ w.proxy.opened.card +
    (if cfg.isClientAllowed s.1 s.2.service then s ::ₘ w.received else w.received).card
  by_cases hs : s ∈ w.proxy.pending
  · rw [IncomingSubscriptions.onSubscribe_of_unknown hknown, Finset.insert_eq_of_mem hs,
      if_pos (h.sound.allowed s hs), Multiset.card_cons]
    exact fun heq => Nat.succ_ne_self _ (Nat.add_left_cancel heq).symm
  · rw [IncomingSubscriptions.opened_onSubscribe_of_unknown hknown hs,
      if_neg fun hallowed => hparked ⟨hallowed, hs⟩, Multiset.card_cons]
    exact fun heq => Nat.succ_ne_self _ (Nat.add_right_cancel heq)

/-- An UNSUBSCRIBE that withdraws nothing changes the subscriptions of both. -/
lemma Inv.unsubscribe (h : w.Inv cfg) (hgood : w.Undisturbed cfg (.unsubscribe s)) :
    (w.step cfg (.unsubscribe s)).Inv cfg := by
  have hwithdrawn : w.withdrawn s = 0 :=
    Finset.val_eq_zero.mpr (Finset.filter_eq_empty_iff.mpr hgood)
  have hstep : w.step cfg (.unsubscribe s) =
      ⟨w.proxy.onUnsubscribe s, w.reference.onUnsubscribe s, w.received⟩ := by
    unfold step
    dsimp only
    rw [hwithdrawn, IncomingSubscriptions.drop_zero, Multiset.sub_zero]
    rfl
  rw [hstep]
  refine ⟨⟨h.agrees.once, ?_, h.agrees.opened⟩, ⟨h.sound.allowed, h.sound.replay, h.sound.replayed⟩,
    ⟨h.knowsAll.known, h.knowsAll.pending, h.knowsAll.direct⟩⟩
  exact congrArg (fun o => { o with registry := o.registry.unsubscribe s }) h.agrees.outcome

/-- A withdrawn subscription stays open. -/
lemma Inv.not_unsubscribe (h : w.Inv cfg) (hbad : ¬ w.Undisturbed cfg (.unsubscribe s)) :
    ¬ (w.step cfg (.unsubscribe s)).Agrees := by
  intro h'
  have hle : w.withdrawn s ≤ w.received := by
    rw [← h.agrees.once]
    refine (Finset.val_le_iff.mpr (Finset.filter_subset _ _)).trans ?_
    exact h.sound.pending_le_opened.trans (Multiset.le_add_left _ _)
  have hreceived : w.received = w.received - w.withdrawn s := h.agrees.once.symm.trans h'.once
  have hcard := congrArg Multiset.card hreceived
  rw [Multiset.card_sub hle] at hcard
  have hpos : (w.withdrawn s).card ≠ 0 := fun hzero =>
    hbad (Finset.filter_eq_empty_iff.mp (Finset.card_eq_zero.mp hzero))
  have := Multiset.card_le_card hle
  omega

/-- A ROUTING_INFO that finds no replayed subscription opens nothing new. -/
lemma Inv.routingInfo {clients : List UInt16} (h : w.Inv cfg)
    (hgood : w.Undisturbed cfg (.routingInfo clients)) : (w.step cfg (.routingInfo clients)).Inv cfg where
  agrees := by
    refine h.agrees.open rfl rfl 0 ?_ ?_ (Multiset.zero_add _).symm
    · rw [Multiset.zero_add, w.proxy.opened_eq_of_unknown hgood]
      exact w.proxy.opened_onRoutingInfo clients
    · rw [Multiset.zero_add]
      exact h.knowsAll.opened_onRoutingInfo clients
  sound := h.sound.onRoutingInfo clients
  knowsAll := h.knowsAll.onRoutingInfo clients

/-- A subscription that was replayed is replayed again. -/
lemma Inv.not_routingInfo {clients : List UInt16} (h : w.Inv cfg)
    (hbad : ¬ w.Undisturbed cfg (.routingInfo clients)) :
    ¬ (w.step cfg (.routingInfo clients)).Agrees := by
  obtain ⟨s, hs, hknown⟩ : ∃ s ∈ w.proxy.pending, w.proxy.known s.1 := by
    by_contra hnone
    exact hbad fun s hs hknown => hnone ⟨s, hs, hknown⟩
  refine h.agrees.not_agrees rfl fun heq => ?_
  exact absurd (Nat.add_right_cancel heq)
    (IncomingSubscriptions.card_opened_lt_onRoutingInfo hs hknown clients).ne'

/-- The answer to an open call is the same for both. -/
lemma Inv.answer {handler : SubscriptionHandler} (h : w.Inv cfg) (accepted : Bool) :
    (w.step cfg (.answer handler accepted)).Inv cfg := by
  unfold step
  dsimp only
  split_ifs with hmem
  · have hopened := IncomingSubscriptions.opened_onAnswer cfg hmem (h.sound.replay handler hmem)
      accepted
    have hsub : handler.subscription ∈ w.proxy.opened :=
      Multiset.mem_add.mpr (Or.inl (Multiset.mem_map_of_mem _ hmem))
    have hmem' := h.knowsAll.mem_handlers (h.agrees.opened ▸ hsub)
    have hopened' := IncomingSubscriptions.opened_onAnswer cfg hmem' nofun accepted
    refine ⟨⟨?_, ?_, ?_⟩, h.sound.onAnswer handler accepted, h.knowsAll.onAnswer _ accepted⟩
    · have hanswered : (↑((w.proxy.onAnswer cfg handler accepted).answers.map Prod.fst) :
          Multiset ClientSubscription) = handler.subscription ::ₘ w.answered := by
        unfold IncomingSubscriptions.onAnswer
        rw [List.map_append, ← Multiset.coe_add, Multiset.add_comm]
        rfl
      refine Eq.trans (congrArg₂ (· + ·) hanswered hopened) ?_
      rw [Multiset.cons_add, ← Multiset.add_cons, Multiset.cons_erase hsub]
      exact h.agrees.once
    · exact congrArg (fun o : SubscriptionOutcome => SubscriptionOutcome.mk
        (if accepted then o.registry.subscribe cfg handler.subscription else o.registry)
        (o.answers ++ [(handler.subscription, accepted)])) h.agrees.outcome
    · exact hopened.trans ((congrArg (Multiset.erase · _) h.agrees.opened).trans hopened'.symm)
  · exact h

/-- **When early subscriptions are served**: in every run, the states are as expected exactly if the
steps are undisturbed.

**Proof sketch.** What is open is compared. A SUBSCRIBE that is not disturbed opens itself, and a
ROUTING_INFO turns what waits into calls, so that an answer closes what it answers. A disturbance opens
more or less than is to be answered, from which the run does not recover. -/
theorem world_agrees_along_iff (cfg : IncomingConfig) (known : UInt16 → Bool) (registry : EventRegistry)
    (es : List IncomingEvent) :
    Runs.Along (step cfg) (fun w e => (w.step cfg e).Agrees) (init known registry) es ↔
      Runs.Along (step cfg) (Undisturbed cfg) (init known registry) es := by
  refine Runs.along_iff (I := Inv cfg) (E := fun _ _ => True) (fun {w e} h _ hgood => ?_)
    (fun {w e} h _ hbad => ?_) (inv_init known registry) (Runs.along_of_forall fun _ _ => trivial)
  · have hstep : (w.step cfg e).Inv cfg := by
      cases e with
      | subscribe s => exact h.subscribe hgood
      | unsubscribe s => exact h.unsubscribe hgood
      | routingInfo clients => exact h.routingInfo hgood
      | answer handler accepted => exact h.answer accepted
    exact ⟨hstep, hstep.agrees⟩
  · cases e with
    | subscribe s => exact h.not_subscribe hbad
    | unsubscribe s => exact h.not_unsubscribe hbad
    | routingInfo clients => exact h.not_routingInfo hbad
    | answer handler accepted => exact absurd trivial hbad

/-- A SUBSCRIBE of a known client is answered as often as it was received, when no call for it is
open. -/
lemma Agrees.count_answered (h : w.Agrees) (hknown : w.proxy.known s.1)
    (hanswered : ∀ handler ∈ w.proxy.handlers, handler.subscription ≠ s) :
    w.answered.count s = w.received.count s := by
  have hopened : s ∉ w.proxy.opened := fun hmem => by
    rcases Multiset.mem_add.mp hmem with hmem | hmem
    · obtain ⟨handler, hhandler, heq⟩ := Multiset.mem_map.mp hmem
      exact hanswered handler hhandler heq
    · exact (Finset.mem_filter.mp hmem).2 hknown
  rw [← h.once, Multiset.count_add, Multiset.count_eq_zero_of_notMem hopened, Nat.add_zero]

/-! ## Lost and repeated subscriptions -/

/-- A policy that allows everything, and no debounce function. -/
def openConfig : IncomingConfig := ⟨fun _ _ => true, fun _ _ _ _ => false⟩

/-- A SUBSCRIBE of the client 7, which is not known. -/
def early : ClientSubscription := (7, ⟨(1, 1), 1, 0x8001⟩)

/-- A second ROUTING_INFO comes before the application answers. -/
def repeatedRun : List IncomingEvent :=
  [.subscribe early, .routingInfo [7], .routingInfo [], .answer ⟨early, true⟩ true,
    .answer ⟨early, true⟩ true]

/-- The client unsubscribes before it is known. -/
def withdrawnRun : List IncomingEvent :=
  [.subscribe early, .unsubscribe early, .routingInfo [7], .answer ⟨early, true⟩ true]

/-- The client unsubscribes when its SUBSCRIBE was replayed, but is not answered. -/
def replayedRun : List IncomingEvent :=
  [.subscribe early, .routingInfo [7], .unsubscribe early, .answer ⟨early, true⟩ true]

/-- The world after a run in which no client is known at first. -/
def after (es : List IncomingEvent) : SubscribingWorld :=
  Runs.run (step openConfig) (init (fun _ => false) EventRegistry.empty) es

/-- A SUBSCRIBE is answered twice, and one that was withdrawn is answered, so that the client is
subscribed in the end. -/
theorem not_agrees_along :
    ((after repeatedRun).proxy.handlers = 0 ∧ (after repeatedRun).received = {early} ∧
      (after repeatedRun).answered = {early, early}) ∧
    (∀ es ∈ [withdrawnRun, replayedRun],
      (after es).proxy.handlers = 0 ∧ (after es).received = 0 ∧ (after es).answered = {early} ∧
      (after es).proxy.registry.IsSubscribed (1, 1) 1 7) ∧
    ∀ es ∈ [repeatedRun, withdrawnRun, replayedRun],
      ¬ Runs.Along (step openConfig) (fun w e => (w.step openConfig e).Agrees)
        (init (fun _ => false) EventRegistry.empty) es := by
  refine ⟨⟨by decide, by decide, by decide⟩, fun es hes => ?_, fun es hes h => ?_⟩
  · rcases List.mem_pair.mp hes with rfl | rfl
    · exact ⟨by decide, by decide, by decide, 0, Or.inl ⟨0x8001, by decide⟩, by decide⟩
    · exact ⟨by decide, by decide, by decide, 0, Or.inl ⟨0x8001, by decide⟩, by decide⟩
  · rcases List.mem_cons.mp hes with rfl | hes
    · exact absurd h.2.2.1.once (by decide)
    · rcases List.mem_pair.mp hes with rfl | rfl
      · exact absurd h.2.1.once (by decide)
      · exact absurd h.2.2.1.once (by decide)

end SubscribingWorld

end Vsomeip
