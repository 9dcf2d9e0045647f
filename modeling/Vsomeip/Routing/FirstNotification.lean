import Vsomeip.Routing.CrcVerdict
import Vsomeip.Routing.EventgroupInfo
import Vsomeip.Routing.NotifyOne

set_option relaxedAutoImplicit false
set_option autoImplicit false

/-!
# The first value of a field

A remote host that subscribes to a field gets its value at once. If the field has none yet,
`send_initial_events` marks it, and `on_notification` sends the first value to every remote target. The
value should be stored then, and be sent to the targets.

It is stored by the calls that notify the targets, so it is lost if there is no target any more: the
mark is taken away all the same, and the field stays without a value.

`is_updating_on_change_` is left out, because nothing calls `set_update_on_change`, and so are the
cycles of an event, which send its value again.

## Main definitions

* `Vsomeip.Publisher` — the events and the eventgroups of the routing manager.
* `Vsomeip.Publisher.onNotification`, `Vsomeip.Publisher.sendInitialEvents` — the functions of the
  source.
* `Vsomeip.Publisher.FirstValueKept` — the value is stored and sent.

## Main results

* `Vsomeip.Publisher.marked_sendInitials` — a field without a value is marked for a new subscriber.
* `Vsomeip.Publisher.firstValueKept_iff` — this is so unless the field is marked and has no target.
-/

namespace Vsomeip

/-! ## Events -/

/-- An event that is not set has the empty payload. -/
def Event.Cleared (ev : Event) : Prop := ev.isSet = false → ev.payload = []

namespace Event

variable {ev : Event}

/-- Setting a payload keeps an event that is not set empty. -/
lemma Cleared.setPayload (h : ev.Cleared) (payload : List UInt8) (force : Bool) :
    (ev.setPayload payload force).1.Cleared := by
  unfold Event.setPayload
  split_ifs
  · exact nofun
  · exact h
  · exact h

/-- So does storing a payload without a notification. -/
lemma Cleared.setPayloadDontNotify (h : ev.Cleared) (payload : List UInt8) :
    (ev.setPayloadDontNotify payload).1.Cleared := by
  unfold Event.setPayloadDontNotify
  split_ifs
  · exact nofun
  · exact h

/-- What is forced on a provided event is stored and sent. -/
lemma setPayload_force (hprovided : ev.isProvided) (payload : List UInt8) :
    ev.setPayload payload true = ({ ev with payload := payload, isSet := true }, true) := by
  unfold Event.setPayload
  rw [if_pos hprovided, if_pos (Or.inr (Or.inl rfl))]

/-- The members of an event that no payload changes. -/
def identity (ev : Event) : ServiceKey × UInt16 × Bool :=
  (ev.service, ev.event, ev.isProvided)

/-- Setting a payload keeps the identity of the event. -/
lemma identity_setPayload (payload : List UInt8) (force : Bool) :
    (ev.setPayload payload force).1.identity = ev.identity := by
  unfold Event.setPayload
  split_ifs <;> rfl

/-- Storing a payload keeps the identity of the event. -/
lemma identity_setPayloadDontNotify (payload : List UInt8) :
    (ev.setPayloadDontNotify payload).1.identity = ev.identity := by
  unfold Event.setPayloadDontNotify
  split_ifs <;> rfl

/-- Storing the value of an event once more does not change it. -/
lemma setPayloadDontNotify_holds {payload : List UInt8}
    (h : ev.isSet ∧ ev.payload = payload ∨ ev.epsilonChange ev.payload payload) :
    (ev.setPayloadDontNotify payload).1.isSet ∧
      (ev.setPayloadDontNotify payload).1.payload = payload := by
  unfold Event.setPayloadDontNotify
  split_ifs with hchange
  · exact ⟨rfl, rfl⟩
  · exact h.resolve_right fun heps => hchange (Or.inr (Or.inr heps))

end Event

/-- `event`, with the members that are about remote subscribers. -/
structure PublishedEvent extends Event where
  isReliable : Bool
  remoteNotificationPending : Bool
  cleared : toEvent.Cleared

/-- The message of an event that is sent to one remote target, or else to all subscribers. -/
structure SentEvent (Address : Type) where
  target : Option (EndpointDefinition Address)
  service : ServiceKey
  event : UInt16
  payload : List UInt8
deriving DecidableEq

/-- The payload of a notification. -/
def HeadedData.eventPayload (m : HeadedData) : List UInt8 :=
  m.payload.take m.payloadSize.toNat

namespace PublishedEvent

variable {Address : Type}

/-- `event::set_payload` for a target, or for all subscribers, and what is sent. -/
def setPayloadFor (ev : PublishedEvent) (payload : List UInt8)
    (target : Option (EndpointDefinition Address)) (force : Bool) :
    PublishedEvent × List (SentEvent Address) :=
  ({ ev with
      toEvent := (ev.setPayload payload force).1
      cleared := ev.cleared.setPayload payload force },
    if (ev.setPayload payload force).2 then [⟨target, ev.service, ev.event, payload⟩] else [])

/-- `event::set_payload_dont_notify`. -/
def store (ev : PublishedEvent) (payload : List UInt8) : PublishedEvent :=
  { ev with
    toEvent := (ev.setPayloadDontNotify payload).1
    cleared := ev.cleared.setPayloadDontNotify payload }

/-- `event::set_remote_notification_pending`. -/
def setRemoteNotificationPending (ev : PublishedEvent) (value : Bool) : PublishedEvent :=
  { ev with remoteNotificationPending := value }

/-- The round of `on_notification` for a target of an event that is marked. -/
def notifyTarget (ev : PublishedEvent) (isOfferedBoth : Bool) (payload : List UInt8)
    (target : EndpointDefinition Address) : PublishedEvent × List (SentEvent Address) :=
  if ¬ isOfferedBoth then ev.setPayloadFor payload (some target) true
  else if ev.isReliable ∧ target.isReliable then ev.setPayloadFor payload (some target) true
  else if ¬ ev.isReliable ∧ ¬ target.isReliable then ev.setPayloadFor payload (some target) true
  else (ev.store payload, [])

/-- The rounds for all targets. -/
def notifyTargets (ev : PublishedEvent) (isOfferedBoth : Bool) (payload : List UInt8) :
    List (EndpointDefinition Address) → PublishedEvent × List (SentEvent Address)
  | [] => (ev, [])
  | target :: targets =>
    let (ev', sent) := ev.notifyTarget isOfferedBoth payload target
    let (ev'', sent') := ev'.notifyTargets isOfferedBoth payload targets
    (ev'', sent ++ sent')

/-- The round of `send_initial_events` for an event of the eventgroup. -/
def sendInitial (ev : PublishedEvent) (isOfferedBoth : Bool)
    (subscriber : EndpointDefinition Address) : PublishedEvent × List (SentEvent Address) :=
  if ¬ ev.isField then (ev, [])
  else if ev.isSet then
    (ev, if ¬ isOfferedBoth ∨ (ev.isReliable ∧ subscriber.isReliable) ∨
        (¬ ev.isReliable ∧ ¬ subscriber.isReliable) then
      [⟨some subscriber, ev.service, ev.event, ev.payload⟩] else [])
  else (ev.setRemoteNotificationPending true, [])

end PublishedEvent

/-! ## The routing manager -/

/-- `eventgroupinfo`, with the events of the eventgroup. -/
structure PublishedEventgroup (Address Ident : Type) extends EventgroupInfo Address Ident where
  events : List UInt16

/-- The events and the eventgroups of `routing_manager_impl`, and the ports of the configuration. -/
structure Publisher (Address Ident : Type) where
  events : ServiceKey → UInt16 → Option PublishedEvent
  eventgroups : ServiceKey → UInt16 → Option (PublishedEventgroup Address Ident)
  reliablePort : ServiceKey → UInt16
  unreliablePort : ServiceKey → UInt16

namespace Publisher

variable {Address Ident : Type}

/-- Replace an event. -/
def setEvent (s : Publisher Address Ident) (k : ServiceKey) (event : UInt16) (ev : PublishedEvent) :
    Publisher Address Ident :=
  { s with events := Function.update s.events k (Function.update (s.events k) event (some ev)) }

/-- The service has a reliable and an unreliable port. -/
def isOfferedBoth (s : Publisher Address Ident) (k : ServiceKey) : Bool :=
  s.reliablePort k ≠ illegalPort ∧ s.unreliablePort k ≠ illegalPort

/-- The targets of the eventgroups of an event. -/
def targets (s : Publisher Address Ident) (k : ServiceKey) (ev : PublishedEvent) :
    List (EndpointDefinition Address) :=
  ev.eventgroups.keys.flatMap fun g => match s.eventgroups k g with
    | some eventgroup => eventgroup.targets.map Target.endpoint
    | none => []

/-- `on_notification` without `_notify_one`. -/
def onNotification (s : Publisher Address Ident) (k : ServiceKey) (m : HeadedData) :
    Publisher Address Ident × List (SentEvent Address) :=
  match s.events k m.method with
  | none => (s, [])
  | some ev =>
    if ev.isField then
      if ev.isSet then
        let (ev', sent) := ev.setPayloadFor m.eventPayload none false
        (s.setEvent k m.method ev', sent)
      else if ev.remoteNotificationPending then
        let (ev', sent) := ev.notifyTargets (s.isOfferedBoth k) m.eventPayload (s.targets k ev)
        (s.setEvent k m.method (ev'.setRemoteNotificationPending false), sent)
      else (s.setEvent k m.method (ev.store m.eventPayload), [])
    else
      let (ev', sent) := ev.setPayloadFor m.eventPayload none false
      (s.setEvent k m.method ev', sent)

/-- The rounds of `send_initial_events` for the events of an eventgroup. -/
def sendInitials (s : Publisher Address Ident) (k : ServiceKey)
    (subscriber : EndpointDefinition Address) :
    List UInt16 → Publisher Address Ident × List (SentEvent Address)
  | [] => (s, [])
  | event :: events =>
    match s.events k event with
    | none => s.sendInitials k subscriber events
    | some ev =>
      let (ev', sent) := ev.sendInitial (s.isOfferedBoth k) subscriber
      let (s', sent') := (s.setEvent k event ev').sendInitials k subscriber events
      (s', sent ++ sent')

/-- `send_initial_events`. -/
def sendInitialEvents (s : Publisher Address Ident) (k : ServiceKey) (eventgroup : UInt16)
    (subscriber : EndpointDefinition Address) : Publisher Address Ident × List (SentEvent Address) :=
  match s.eventgroups k eventgroup with
  | none => (s, [])
  | some info => s.sendInitials k subscriber info.events

/-- The value of a notification is stored in an event, and if the event was marked, the current targets
whose transport matches the event were sent it. -/
structure FirstValueKept (s : Publisher Address Ident) (k : ServiceKey) (m : HeadedData)
    (ev : PublishedEvent) : Prop where
  stored : ∃ ev', (s.onNotification k m).1.events k m.method = some ev' ∧ ev'.isSet ∧
    ev'.payload = m.eventPayload
  notified : ev.remoteNotificationPending → ∀ target ∈ s.targets k ev,
    ev.isReliable = target.isReliable →
      ⟨some target, ev.service, ev.event, m.eventPayload⟩ ∈ (s.onNotification k m).2

end Publisher

/-! ## Notifying the targets -/

namespace PublishedEvent

variable {Address : Type} {ev : PublishedEvent} {isOfferedBoth : Bool} {payload : List UInt8}
variable {target : EndpointDefinition Address}

/-- Two states of one event, which has the same transport in both. -/
structure SameEvent (ev ev' : PublishedEvent) : Prop where
  identity : ev'.identity = ev.identity
  isReliable : ev'.isReliable = ev.isReliable

/-- The same event is still provided. -/
lemma SameEvent.isProvided {ev' : PublishedEvent} (h : ev.SameEvent ev') (hprovided : ev.isProvided) :
    ev'.isProvided := by
  have := congrArg (fun i => i.2.2) h.identity
  exact Eq.trans this hprovided

/-- The event has a value. -/
def Holds (ev : PublishedEvent) (payload : List UInt8) : Prop :=
  ev.isSet ∧ ev.payload = payload

/-- Setting a payload for a target leaves the same event. -/
lemma sameEvent_setPayloadFor (target : Option (EndpointDefinition Address)) (force : Bool) :
    ev.SameEvent (ev.setPayloadFor payload target force).1 :=
  ⟨Event.identity_setPayload payload force, rfl⟩

/-- Storing a payload leaves the same event. -/
lemma sameEvent_store : ev.SameEvent (ev.store payload) :=
  ⟨Event.identity_setPayloadDontNotify payload, rfl⟩

/-- A provided event holds the payload that is set for a target by force. -/
lemma holds_setPayloadFor (hprovided : ev.isProvided) (target : Option (EndpointDefinition Address)) :
    (ev.setPayloadFor payload target true).1.Holds payload := by
  have h := congrArg Prod.fst (Event.setPayload_force hprovided payload)
  exact ⟨congrArg Event.isSet h, congrArg Event.payload h⟩

/-- A provided event sends the payload that is set for a target by force. -/
lemma sent_setPayloadFor (hprovided : ev.isProvided) (target : Option (EndpointDefinition Address)) :
    (ev.setPayloadFor payload target true).2 = [⟨target, ev.service, ev.event, payload⟩] :=
  if_pos (congrArg Prod.snd (Event.setPayload_force hprovided payload))

/-- An event holds a payload that is stored, or that it takes for unchanged. -/
lemma holds_store (h : ev.Holds payload ∨ ev.epsilonChange ev.payload payload) :
    (ev.store payload).Holds payload :=
  Event.setPayloadDontNotify_holds h

/-- A round sends the value to the target, or stores it only. -/
lemma notifyTarget_eq (target : EndpointDefinition Address) :
    ev.notifyTarget isOfferedBoth payload target =
      if !isOfferedBoth || ev.isReliable == target.isReliable then
        ev.setPayloadFor payload (some target) true
      else (ev.store payload, []) := by
  unfold notifyTarget
  cases isOfferedBoth <;> cases ev.isReliable <;> cases target.isReliable <;> rfl

/-- Notifying a target leaves the same event. -/
lemma sameEvent_notifyTarget : ev.SameEvent (ev.notifyTarget isOfferedBoth payload target).1 := by
  rw [notifyTarget_eq]
  split_ifs
  · exact sameEvent_setPayloadFor _ _
  · exact sameEvent_store

/-- After a round the event has the value. -/
lemma holds_notifyTarget (hprovided : ev.isProvided)
    (h : ev.Holds payload ∨ ev.epsilonChange ev.payload payload) :
    (ev.notifyTarget isOfferedBoth payload target).1.Holds payload := by
  rw [notifyTarget_eq]
  split_ifs
  · exact holds_setPayloadFor hprovided _
  · exact holds_store h

/-- The targets that are sent the value are those that match, or all if the service has one port. -/
lemma sent_notifyTargets (hprovided : ev.isProvided) (targets : List (EndpointDefinition Address)) :
    (ev.notifyTargets isOfferedBoth payload targets).2 =
      (targets.filter fun target => !isOfferedBoth || ev.isReliable == target.isReliable).map
        fun target => ⟨some target, ev.service, ev.event, payload⟩ := by
  induction targets generalizing ev with
  | nil => rfl
  | cons target targets ih =>
    have hsame : ev.SameEvent (ev.notifyTarget isOfferedBoth payload target).1 :=
      sameEvent_notifyTarget
    have hrest := ih (hsame.isProvided hprovided)
    have hservice := congrArg (fun i => i.1) hsame.identity
    have hevent := congrArg (fun i => i.2.1) hsame.identity
    dsimp only [Event.identity] at hservice hevent
    rw [hservice, hevent, hsame.isReliable] at hrest
    unfold notifyTargets
    dsimp only
    rw [hrest, notifyTarget_eq, List.filter_cons]
    split_ifs
    · rw [sent_setPayloadFor hprovided _]
      rfl
    · rfl

/-- The event has the value after the rounds if there was one, or if it had the value before. -/
lemma holds_notifyTargets (hprovided : ev.isProvided) (targets : List (EndpointDefinition Address))
    (h : ev.Holds payload ∨ ev.epsilonChange ev.payload payload ∧ targets ≠ []) :
    (ev.notifyTargets isOfferedBoth payload targets).1.Holds payload := by
  induction targets generalizing ev with
  | nil => exact h.resolve_right fun h => h.2 rfl
  | cons target targets ih =>
    have hsame : ev.SameEvent (ev.notifyTarget isOfferedBoth payload target).1 :=
      sameEvent_notifyTarget
    exact ih (hsame.isProvided hprovided)
      (Or.inl (holds_notifyTarget hprovided (h.imp_right And.left)))

/-- A field that has no value is marked instead of being sent. -/
lemma sendInitial_of_unset (hfield : ev.isField) (hunset : ev.isSet = false) (isOfferedBoth : Bool)
    (subscriber : EndpointDefinition Address) : ev.sendInitial isOfferedBoth subscriber =
      (ev.setRemoteNotificationPending true, []) := by
  unfold sendInitial
  rw [if_neg (not_not_intro hfield), hunset, if_neg Bool.false_ne_true]

end PublishedEvent

/-! ## The first value -/

namespace Publisher

variable {Address Ident : Type} {s : Publisher Address Ident} {k : ServiceKey} {m : HeadedData}
variable {ev : PublishedEvent}

/-- The event that is set. -/
@[simp] lemma setEvent_events (s : Publisher Address Ident) (k : ServiceKey) (event : UInt16)
    (ev : PublishedEvent) : (s.setEvent k event ev).events k event = some ev := by
  unfold setEvent
  dsimp only
  rw [Function.update_self, Function.update_self]

/-- Other events stay when one is set. -/
lemma setEvent_events_of_ne (s : Publisher Address Ident) (k : ServiceKey) (ev : PublishedEvent)
    {event event' : UInt16} (h : event' ≠ event) :
    (s.setEvent k event ev).events k event' = s.events k event' := by
  unfold setEvent
  dsimp only
  rw [Function.update_self, Function.update_of_ne h]

/-- A field that has no value yet is marked, if its eventgroup has a new subscriber.

**Proof sketch.** Induction on the events. A round for another event does not change the field, and
one for the field marks it, which may be so before. -/
lemma marked_sendInitials {event : UInt16} (subscriber : EndpointDefinition Address)
    (hfield : ev.isField) (hunset : ev.isSet = false) (events : List UInt16)
    (hev : s.events k event = some ev) :
    (s.sendInitials k subscriber events).1.events k event =
      some (if event ∈ events then ev.setRemoteNotificationPending true else ev) := by
  induction events generalizing s ev with
  | nil => exact hev
  | cons event' events ih =>
    by_cases hsame : event' = event
    · subst hsame
      have hround := ev.sendInitial_of_unset hfield hunset (s.isOfferedBoth k) subscriber
      have hrest := @ih (s.setEvent k event' (ev.setRemoteNotificationPending true))
        (ev.setRemoteNotificationPending true) hfield hunset (setEvent_events _ _ _ _)
      simp only [sendInitials, hev, hround]
      rw [hrest, if_pos List.mem_cons_self]
      split_ifs <;> rfl
    · have hmem : event ∈ event' :: events ↔ event ∈ events :=
        List.mem_cons.trans (or_iff_right fun h => hsame h.symm)
      rw [if_congr hmem rfl rfl]
      cases hev' : s.events k event' with
      | none =>
        simp only [sendInitials, hev']
        exact ih hfield hunset hev
      | some other =>
        simp only [sendInitials, hev']
        exact ih hfield hunset ((setEvent_events_of_ne _ _ _ fun h => hsame h.symm).trans hev)

/-- **When the first value is kept**: the first value of a field that is registered, provided and not
set, if the function that compares values takes it for different from the empty value, is stored and
sent to the targets that match, exactly if the field is not marked or has a target.

**Proof sketch.** A field that is not set has the empty payload. A field that is not marked stores the
value; one that is marked stores it in the first round, and the later rounds keep it. -/
theorem firstValueKept_iff (hev : s.events k m.method = some ev) (hfield : ev.isField)
    (hprovided : ev.isProvided) (hunset : ev.isSet = false)
    (hchange : ev.epsilonChange [] m.eventPayload) :
    s.FirstValueKept k m ev ↔ (ev.remoteNotificationPending → s.targets k ev ≠ []) := by
  rw [← ev.cleared hunset] at hchange
  have hset : ¬ ev.isSet := by
    rw [hunset]
    exact Bool.false_ne_true
  have honNotification : s.onNotification k m =
      if ev.remoteNotificationPending then
        (s.setEvent k m.method ((ev.notifyTargets (s.isOfferedBoth k) m.eventPayload
            (s.targets k ev)).1.setRemoteNotificationPending false),
          (ev.notifyTargets (s.isOfferedBoth k) m.eventPayload (s.targets k ev)).2)
      else (s.setEvent k m.method (ev.store m.eventPayload), []) := by
    simp only [onNotification, hev, if_pos hfield, if_neg hset]
  by_cases hpending : ev.remoteNotificationPending
  · rw [if_pos hpending] at honNotification
    constructor
    · -- without a target no round has stored the value
      rintro ⟨⟨ev', hev', hset', -⟩, -⟩ - htargets
      rw [honNotification, htargets, setEvent_events] at hev'
      obtain rfl := Option.some.inj hev'
      exact hset hset'
    · intro htargets
      refine ⟨⟨_, by rw [honNotification, setEvent_events], ?_⟩, fun _ target hmem hmatch => ?_⟩
      · exact ev.holds_notifyTargets hprovided _ (Or.inr ⟨hchange, htargets hpending⟩)
      · rw [honNotification, ev.sent_notifyTargets hprovided]
        refine List.mem_map.mpr ⟨target, List.mem_filter.mpr ⟨hmem, ?_⟩, rfl⟩
        rw [hmatch, beq_self_eq_true, Bool.or_true]
  · rw [if_neg hpending] at honNotification
    refine iff_of_true ⟨⟨_, by rw [honNotification, setEvent_events], ?_⟩, fun h => absurd h hpending⟩
      fun h => absurd h hpending
    exact ev.holds_store (Or.inr hchange)

/-! ## A field whose subscriber is gone -/

/-- A field of an eventgroup that has no value yet. -/
def field : PublishedEvent where
  toEvent := { Event.new (1, 1) 0x8001 with
    isField := true, isProvided := true, eventgroups := (∅ : Std.TreeMap UInt16 _).insert 1 ∅ }
  isReliable := false
  remoteNotificationPending := false
  cleared := fun _ => rfl

/-- The routing manager with the field, and the targets of its eventgroup. -/
def fieldPublisher (targets : List (Target Unit)) : Publisher Unit Unit where
  events k event := if k = (1, 1) ∧ event = 0x8001 then some field else none
  eventgroups k eventgroup := if k = (1, 1) ∧ eventgroup = 1 then
    some { EventgroupInfo.init false with targets, events := [0x8001] } else none
  reliablePort _ := illegalPort
  unreliablePort _ := 30509

/-- A remote subscriber of the eventgroup. -/
def subscriber : EndpointDefinition Unit := ⟨(), 30500, false⟩

/-- The first value of the field is 5. -/
def firstValue : HeadedData where
  data := [0, 1, 0x80, 1, 0, 0, 0, 9, 0, 0, 0, 0, 1, 1, 2, 0, 5]
  sized := by decide
  headed := by decide

/-- The field is marked for a subscriber, which is a target when there is a value. -/
theorem firstValueKept_fieldPublisher :
    ((fieldPublisher [⟨subscriber, 3⟩]).sendInitialEvents (1, 1) 1 subscriber).1.FirstValueKept (1, 1)
      firstValue (field.setRemoteNotificationPending true) :=
  (firstValueKept_iff rfl rfl rfl rfl (by decide)).mpr fun _ => by decide +kernel

/-- The field is marked for a subscriber, which unsubscribes before there is a value. -/
theorem not_firstValueKept :
    ∃ ev, ((fieldPublisher []).sendInitialEvents (1, 1) 1 subscriber).1.events (1, 1)
        firstValue.method = some ev ∧
      ev.isField ∧ ev.isProvided ∧ ev.isSet = false ∧ ev.epsilonChange [] firstValue.eventPayload ∧
      ¬ ((fieldPublisher []).sendInitialEvents (1, 1) 1 subscriber).1.FirstValueKept (1, 1) firstValue
        ev := by
  refine ⟨field.setRemoteNotificationPending true, rfl, rfl, rfl, rfl, by decide, fun h => ?_⟩
  obtain ⟨ev', hev', hset, -⟩ := h.stored
  have hlost : ((((fieldPublisher []).sendInitialEvents (1, 1) 1 subscriber).1.onNotification (1, 1)
      firstValue).1.events (1, 1) firstValue.method).map (fun ev => ev.isSet) = some false := by
    decide +kernel
  rw [hev', Option.map_some, hset] at hlost
  exact absurd hlost (by decide)

end Publisher

end Vsomeip
