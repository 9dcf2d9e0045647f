import Mathlib.Data.Set.Card
import Vsomeip.Lib.Runs
import Vsomeip.Routing.Convergence
import Vsomeip.Routing.EventRegistry

set_option relaxedAutoImplicit false
set_option autoImplicit false

/-!
# The two levels of remote subscription

The application that hosts an eventgroup has a `routing_manager_proxy`, which gets SUBSCRIBE and
UNSUBSCRIBE commands from the routing manager and answers them. It does not know the remote
endpoints. It counts: up with each SUBSCRIBE, whatever the application answers, and down with each
UNSUBSCRIBE, and `VSOMEIP_ROUTING_CLIENT` is a subscriber of the events of the eventgroup until the
count is 0. The routing manager in turn sends an entry on only if there is none of the same kind
pending before it.

The count is that of the endpoints with a subscription as long as exactly those entries are sent on
that change whether their endpoint has one, and no Subscribe is rejected.

## Main definitions

* `Vsomeip.ProxyEventgroup` — the eventgroup in the proxy, with `onSubscribe` and `onUnsubscribe`.
* `Vsomeip.TwoLevels` — the routing manager, the proxy and the commands in flight.
* `Vsomeip.TwoLevels.Agree` — the count is the number of endpoints with an accepted subscription.
* `Vsomeip.TwoLevels.Counted` — the steps that are counted right.

## Main results

* `Vsomeip.TwoLevels.agree_of_counted` — in runs of such steps the two levels agree whenever nothing
  is in flight.
* `Vsomeip.TwoLevels.not_agree_of_reject` — a Subscribe that is rejected.
-/

namespace Vsomeip

/-- An eventgroup in the proxy: `remote_subscriber_count_`, where nothing is 0, the events, and of
which events `VSOMEIP_ROUTING_CLIENT` is a subscriber. -/
structure ProxyEventgroup where
  remoteSubscriberCount : UInt32
  events : List UInt16
  subscribed : UInt16 → Bool

namespace ProxyEventgroup

/-- `routing_manager_proxy::get_remote_subscriber_count`. -/
def getRemoteSubscriberCount (s : ProxyEventgroup) (increment : Bool) : UInt32 :=
  if increment then s.remoteSubscriberCount + 1
  else if 0 < s.remoteSubscriberCount then s.remoteSubscriberCount - 1
  else 0

/-- `routing_manager_base::insert_subscription` of `VSOMEIP_ROUTING_CLIENT` for all events. An
eventgroup without events gets a placeholder. -/
def insertSubscription (s : ProxyEventgroup) : ProxyEventgroup :=
  let events := if s.events.isEmpty then [anyEvent] else s.events
  { s with events, subscribed := fun e => events.contains e || s.subscribed e }

/-- `routing_manager_base::unsubscribe` of `VSOMEIP_ROUTING_CLIENT` for all events. -/
def unsubscribe (s : ProxyEventgroup) : ProxyEventgroup :=
  { s with subscribed := fun e => !s.events.contains e && s.subscribed e }

/-- What `routing_manager_proxy::on_message` does for a SUBSCRIBE of a remote subscriber when the
application has answered, whether or not it has accepted it. -/
def onSubscribe (s : ProxyEventgroup) : ProxyEventgroup :=
  { s.insertSubscription with remoteSubscriberCount := s.getRemoteSubscriberCount true }

/-- What it does for an UNSUBSCRIBE of a remote subscriber. -/
def onUnsubscribe (s : ProxyEventgroup) : ProxyEventgroup :=
  let count := s.getRemoteSubscriberCount false
  let s := { s with remoteSubscriberCount := count }
  if count = 0 then s.unsubscribe else s

/-- After a SUBSCRIBE the routing client is a subscriber of every event. -/
lemma subscribed_onSubscribe (s : ProxyEventgroup) {event : UInt16}
    (h : event ∈ s.onSubscribe.events) : s.onSubscribe.subscribed event = true := by
  have hcontains : s.onSubscribe.events.contains event = true := List.contains_iff_mem.mpr h
  change (s.onSubscribe.events.contains event || s.subscribed event) = true
  rw [hcontains, Bool.true_or]

/-- An UNSUBSCRIBE keeps the events of the eventgroup. -/
@[simp]
lemma events_onUnsubscribe (s : ProxyEventgroup) : s.onUnsubscribe.events = s.events := by
  rw [onUnsubscribe]
  split <;> rfl

/-- An UNSUBSCRIBE counts one remote subscriber less. -/
@[simp]
lemma remoteSubscriberCount_onUnsubscribe (s : ProxyEventgroup) :
    s.onUnsubscribe.remoteSubscriberCount = s.getRemoteSubscriberCount false := by
  rw [onUnsubscribe]
  split <;> rfl

/-- After an UNSUBSCRIBE it is a subscriber if it was one and the count is not 0. -/
lemma subscribed_onUnsubscribe (s : ProxyEventgroup) {event : UInt16} (h : event ∈ s.events) :
    s.onUnsubscribe.subscribed event =
      (s.getRemoteSubscriberCount false != 0 && s.subscribed event) := by
  rw [onUnsubscribe]
  split
  · rename_i hzero
    have hcontains : s.events.contains event = true := List.contains_iff_mem.mpr h
    change (!s.events.contains event && s.subscribed event) = _
    rw [hcontains, hzero, Bool.not_true, bne_self_eq_false]
  · rename_i hzero
    change s.subscribed event = _
    rw [bne_iff_ne.mpr hzero, Bool.true_and]

end ProxyEventgroup

/-- A command between the routing manager and the proxy. -/
inductive RemoteCommand
  | subscribe (id : UInt16)
  | unsubscribe (id : UInt16)
  | subscribeAck (id : UInt16)
  | subscribeNack (id : UInt16)
  | unsubscribeAck (id : UInt16)
deriving DecidableEq

namespace RemoteCommand

/-- The id of the subscription or unsubscription. -/
def id : RemoteCommand → UInt16
  | .subscribe id => id
  | .unsubscribe id => id
  | .subscribeAck id => id
  | .subscribeNack id => id
  | .unsubscribeAck id => id

/-- The command for a request of the routing manager. -/
def ofRequest : UInt16 × Bool → RemoteCommand
  | (id, true) => .subscribe id
  | (id, false) => .unsubscribe id

/-- The id of a command is the one of its request. -/
@[simp]
lemma id_ofRequest (request : UInt16 × Bool) : (ofRequest request).id = request.1 := by
  obtain ⟨id, b⟩ := request
  cases b <;> rfl

/-- What the routing manager does with an answer. -/
def event {Address Ident : Type} (client : UInt16) : RemoteCommand → Option (RemoteEvent Address Ident)
  | .subscribeAck id => some (.subscribeAck client id)
  | .subscribeNack id => some (.subscribeNack client id)
  | .unsubscribeAck id => some (.unsubscribeAck id)
  | .subscribe _ => none
  | .unsubscribe _ => none

end RemoteCommand

/-- The routing manager with the last entries of the endpoints, the proxy, and the commands between
them that have not been handled. -/
structure TwoLevels (Address Ident : Type) where
  info : EventgroupInfo Address Ident
  last : EndpointDefinition Address → LastEntry
  flight : List RemoteCommand
  proxy : ProxyEventgroup

/-- What can happen: an entry arrives, the application answers a SUBSCRIBE that has reached the proxy,
the proxy handles an UNSUBSCRIBE, or the routing manager handles an answer. -/
inductive LevelAction (Address Ident : Type)
  | subscribe (now : ℕ) (subscriber target : EndpointDefinition Address)
      (ttl : { t : UInt32 // 0 < t }) (sdMessageId : Ident) (client : UInt16)
  | stopSubscribe (target : EndpointDefinition Address) (client : UInt16)
  | decide (id : UInt16) (accept : Bool)
  | withdraw (id : UInt16)
  | receive (now : ℕ) (client : UInt16) (answer : RemoteCommand)

namespace TwoLevels

variable {Address Ident : Type} [DecidableEq Address]

/-- A new eventgroup with some events. -/
def init (isMulticast : Bool) (events : List UInt16) : TwoLevels Address Ident where
  info := .init isMulticast
  last := fun _ => .none
  flight := []
  proxy := { remoteSubscriberCount := 0, events, subscribed := fun _ => false }

/-- The commands that the routing manager sends. -/
def sends (calls : List (RemoteOutput Address Ident)) : List RemoteCommand :=
  (calls.filterMap (·.request)).map .ofRequest

/-- One step, for a service that is offered by a client. -/
def step (offering : { c : UInt16 // c ≠ routingClient }) (s : TwoLevels Address Ident) :
    LevelAction Address Ident → TwoLevels Address Ident
  | .subscribe now subscriber target ttl sdMessageId client =>
    let (info, calls) :=
      s.info.handle offering.1 now (.subscribe subscriber target ttl sdMessageId client)
    { s with
      info
      flight := s.flight ++ sends calls
      last := Function.update s.last subscriber
        (if calls.any (·.isAcked) then .accepted else .pending info.subscriptionId) }
  | .stopSubscribe target client =>
    let (info, calls) := s.info.handle offering.1 0 (.stopSubscribe target client)
    { s with
      info
      flight := s.flight ++ sends calls
      last := Function.update s.last target .stopped }
  | .decide id accept =>
    if .subscribe id ∈ s.flight then
      { s with
        flight := s.flight.erase (.subscribe id) ++
          [if accept then .subscribeAck id else .subscribeNack id]
        proxy := s.proxy.onSubscribe }
    else s
  | .withdraw id =>
    if .unsubscribe id ∈ s.flight then
      { s with
        flight := s.flight.erase (.unsubscribe id) ++ [.unsubscribeAck id]
        proxy := s.proxy.onUnsubscribe }
    else s
  | .receive now client answer =>
    match answer.event client with
    | none => s
    | some event =>
      if answer ∈ s.flight then
        let (info, calls) := s.info.handle offering.1 now event
        { s with
          info
          flight := s.flight.erase answer ++ sends calls
          last := fun e => (s.last e).after calls e }
      else s

/-- The count of the proxy is the number of the endpoints whose last entry is a Subscribe that was
accepted, and the routing client is a subscriber of the events exactly if there is one. -/
def Agree (s : TwoLevels Address Ident) : Prop :=
  { e | s.last e = .accepted }.encard = s.proxy.remoteSubscriberCount.toNat ∧
  ∀ event ∈ s.proxy.events, s.proxy.subscribed event = true ↔ ∃ e, s.last e = .accepted

/-- The last entry of the endpoint is a Subscribe that was not rejected. -/
def wanted (s : TwoLevels Address Ident) (e : EndpointDefinition Address) : Bool :=
  match s.last e with
  | .pending _ => true
  | .accepted => true
  | .none => false
  | .stopped => false
  | .rejected => false

/-- An entry of a kind is sent to the proxy, at once or later: the entry before it in its queue is of
the other kind, or there is none. -/
def forwards (s : TwoLevels Address Ident) (e : EndpointDefinition Address) (isSubscribe : Bool) :
    Bool :=
  ((s.info.queue e.remote).getLast?.map (·.isSubscribe)) != some isSubscribe

/-- The steps that are counted right: an entry gets an id that is not pending and is sent on exactly
if it changes whether its endpoint has a subscription, and no Subscribe is rejected or exceeds the
count. -/
def Counted (s : TwoLevels Address Ident) : LevelAction Address Ident → Prop
  | .subscribe _ e .. =>
    if e ∈ s.info.endpoints then s.wanted e = true
    else s.info.pendingSubscriptions s.info.nextId = none ∧ s.forwards e true = !s.wanted e
  | .stopSubscribe e _ =>
    s.info.pendingSubscriptions s.info.nextId = none ∧ s.forwards e false = s.wanted e
  | .decide _ accept => accept = true ∧ s.proxy.remoteSubscriberCount.toNat + 1 < 2 ^ 32
  | .withdraw _ => True
  | .receive .. => True

/-! ## What is still to be counted -/

/-- The entries of a queue that are sent to the proxy, behind one of some kind: of successive entries
of one kind the first one. -/
def forwarded : Option Bool → List (PendingSubscription Address Ident) →
    List (PendingSubscription Address Ident)
  | _, [] => []
  | kind, p :: ps =>
    if kind = some p.isSubscribe then forwarded kind ps else p :: forwarded (some p.isSubscribe) ps

/-- Whether an endpoint is counted after some entries, each of which has to change it. -/
def toggle (e : EndpointDefinition Address) :
    Bool → List (PendingSubscription Address Ident) → Option Bool
  | b, [] => some b
  | b, p :: ps =>
    if p.subscriber = e then if p.isSubscribe = b then none else toggle e p.isSubscribe ps
    else toggle e b ps

section Lists

variable {p q : PendingSubscription Address Ident} {rest : List (PendingSubscription Address Ident)}

omit [DecidableEq Address] in
/-- What is sent behind an entry is what is sent of what it leaves. -/
lemma forwarded_some (b : Bool) (queue : List (PendingSubscription Address Ident)) :
    forwarded (some b) queue = forwarded none (queue.dropWhile (·.isSubscribe == b)) := by
  induction queue with
  | nil => rfl
  | cons p queue ih =>
    by_cases hp : p.isSubscribe = b
    · rw [forwarded, if_pos (by rw [hp]), ih, List.dropWhile_cons_of_pos (by simp [hp])]
    · rw [List.dropWhile_cons_of_neg (by simpa using hp), forwarded, forwarded,
        if_neg (by simpa using Ne.symm hp), if_neg (by simp)]

omit [DecidableEq Address] in
/-- Behind an entry of its kind the first entry of a queue is not sent. -/
lemma forwarded_cons_self : forwarded (some q.isSubscribe) (q :: rest) =
    forwarded none (EventgroupInfo.left q rest) := by
  rw [forwarded, if_pos rfl, forwarded_some]
  rfl

omit [DecidableEq Address] in
/-- The first entry of a queue is sent, and those of another kind behind it. -/
lemma forwarded_cons : forwarded none (q :: rest) =
    q :: forwarded none (EventgroupInfo.left q rest) := by
  rw [forwarded, if_neg (by simp), forwarded_some]
  rfl

omit [DecidableEq Address] in
/-- A further entry is sent if it is not of the kind of the one before it. -/
lemma forwarded_append (kind : Option Bool) (queue : List (PendingSubscription Address Ident)) :
    forwarded kind (queue ++ [p]) = forwarded kind queue ++
      if (queue.getLast?.map (·.isSubscribe)).or kind = some p.isSubscribe then [] else [p] := by
  induction queue generalizing kind with
  | nil =>
    by_cases hkind : kind = some p.isSubscribe
    · simp [forwarded, hkind]
    · simp [forwarded, hkind]
  | cons q queue ih =>
    have hlast : ((q :: queue).getLast?.map (·.isSubscribe)).or kind =
        (queue.getLast?.map (·.isSubscribe)).or (some q.isSubscribe) := by
      cases queue with
      | nil => simp
      | cons q' queue => simp [List.getLast?_cons]
    rw [List.cons_append, forwarded, forwarded, hlast]
    split
    · rename_i hkind
      rw [ih, hkind]
    · rw [ih, List.cons_append]

/-- The last of some entries. -/
lemma toggle_append (e : EndpointDefinition Address) (b : Bool)
    (queue : List (PendingSubscription Address Ident)) :
    toggle e b (queue ++ [p]) = (toggle e b queue).bind fun b' => toggle e b' [p] := by
  induction queue generalizing b with
  | nil => rfl
  | cons q queue ih =>
    rw [List.cons_append, toggle, toggle]
    split
    · split
      · rfl
      · exact ih q.isSubscribe
    · exact ih b

/-- An entry of another endpoint changes nothing for this one. -/
lemma toggle_cons_of_ne {e : EndpointDefinition Address} (h : q.subscriber ≠ e) (b : Bool) :
    toggle e b (q :: rest) = toggle e b rest := by
  rw [toggle, if_neg h]

/-- An entry of the endpoint itself changes whether it is counted. -/
lemma toggle_cons_self {b b' : Bool} (h : toggle q.subscriber b (q :: rest) = some b') :
    b = !q.isSubscribe ∧ toggle q.subscriber q.isSubscribe rest = some b' := by
  rw [toggle, if_pos rfl] at h
  split at h
  · cases h
  · rename_i hb
    refine ⟨?_, h⟩
    cases hq : q.isSubscribe <;> cases b <;> simp_all

end Lists

/-- The command is an answer of the proxy. -/
def isAnswer : RemoteCommand → Bool
  | .subscribeAck _ => true
  | .subscribeNack _ => true
  | .unsubscribeAck _ => true
  | .subscribe _ => false
  | .unsubscribe _ => false

/-- A request is no answer. -/
@[simp]
lemma isAnswer_ofRequest (request : UInt16 × Bool) : isAnswer (.ofRequest request) = false := by
  obtain ⟨id, b⟩ := request
  cases b <;> rfl

/-- The kind of the first entry of a queue, if the proxy has answered it. -/
def answered (s : TwoLevels Address Ident) (r : Address × UInt16) : Option Bool :=
  (s.info.queue r).head?.bind fun q =>
    if s.flight.any (fun m => isAnswer m && m.id == q.pendingSubscriptionId)
    then some q.isSubscribe else none

/-- The entries of a queue that the proxy has still to handle. -/
def work (s : TwoLevels Address Ident) (r : Address × UInt16) :
    List (PendingSubscription Address Ident) :=
  forwarded (s.answered r) (s.info.queue r)

/-- The commands for an entry. -/
def commandsFor (q : PendingSubscription Address Ident) : List RemoteCommand :=
  if q.isSubscribe then [.subscribe q.pendingSubscriptionId, .subscribeAck q.pendingSubscriptionId]
  else [.unsubscribe q.pendingSubscriptionId, .unsubscribeAck q.pendingSubscriptionId]

/-- The invariant of the two levels. For the first entry of each queue there is one command in
flight, and the endpoints that the proxy has counted become those with a subscription when it has
handled what is left in the queues. -/
structure Inv (s : TwoLevels Address Ident) (counted : List (EndpointDefinition Address)) : Prop where
  consistent : s.info.Consistent
  idents : ∀ {r q}, q ∈ s.info.queue r → q.isSubscribe → q.sdMessageIdentifier.isSome
  commands : ∀ m ∈ s.flight, ∃ r q rest, s.info.queue r = q :: rest ∧ m ∈ commandsFor q
  sole : (s.flight.map (·.id)).Nodup
  out : ∀ {r q rest}, s.info.queue r = q :: rest → ∃ m ∈ s.flight, m.id = q.pendingSubscriptionId
  pendingLast : ∀ {e id}, s.last e = .pending id → ∃ q ∈ s.info.queue e.remote,
    q.pendingSubscriptionId = id ∧ q.subscriber = e ∧ q.isSubscribe = true
  nodup : counted.Nodup
  count : s.proxy.remoteSubscriberCount.toNat = counted.length
  balance : ∀ e, toggle e (decide (e ∈ counted)) (s.work e.remote) = some (s.wanted e)
  subscribed : ∀ event ∈ s.proxy.events, s.proxy.subscribed event = !counted.isEmpty

section Inv

variable {s : TwoLevels Address Ident} {counted : List (EndpointDefinition Address)}
  {info : EventgroupInfo Address Ident} {r : Address × UInt16}
  {p q : PendingSubscription Address Ident} {rest : List (PendingSubscription Address Ident)}

/-- The invariant holds at the start. -/
lemma inv_init (isMulticast : Bool) (events : List UInt16) :
    (init isMulticast events : TwoLevels Address Ident).Inv [] where
  consistent := EventgroupInfo.consistent_init isMulticast
  idents := fun hq => by cases hq
  commands := fun m hm => by cases hm
  sole := List.nodup_nil
  out := fun hq => by cases hq
  pendingLast := fun h => by cases h
  nodup := List.nodup_nil
  count := rfl
  balance := fun e => by simp [work, init, forwarded, toggle, wanted]
  subscribed := fun event _ => rfl

omit [DecidableEq Address] in
/-- Whether the first entry of a queue is answered. -/
lemma answered_of_cons (hq : s.info.queue r = q :: rest) :
    s.answered r = if s.flight.any (fun m => isAnswer m && m.id == q.pendingSubscriptionId)
      then some q.isSubscribe else none := by
  simp [answered, hq]

omit [DecidableEq Address] in
/-- Nothing is answered for an empty queue. -/
lemma answered_of_nil (hq : s.info.queue r = []) : s.answered r = none := by
  simp [answered, hq]

omit [DecidableEq Address] in
/-- The first entry of a queue has been answered if there is an answer with its id. -/
lemma answered_of_mem (hq : s.info.queue r = q :: rest) {m : RemoteCommand} (hm : m ∈ s.flight)
    (hanswer : isAnswer m = true) (hid : m.id = q.pendingSubscriptionId) :
    s.answered r = some q.isSubscribe := by
  rw [answered_of_cons hq, if_pos]
  rw [List.any_eq_true]
  exact ⟨m, hm, by simp [hanswer, hid]⟩

omit [DecidableEq Address] in
/-- Nothing is answered if no answer for the first entry is in flight. -/
lemma answered_eq_none (hq : s.info.queue r = q :: rest)
    (h : ∀ m ∈ s.flight, isAnswer m = true → m.id ≠ q.pendingSubscriptionId) :
    s.answered r = none := by
  rw [answered_of_cons hq, if_neg]
  simpa using h

omit [DecidableEq Address] in
/-- Whether the first entry of a queue has been answered depends on the answers with its id. -/
lemma answered_congr {s' : TwoLevels Address Ident}
    {rest' : List (PendingSubscription Address Ident)} (hq' : s'.info.queue r = q :: rest')
    (hq : s.info.queue r = q :: rest)
    (h : ∀ m, isAnswer m = true → m.id = q.pendingSubscriptionId → (m ∈ s'.flight ↔ m ∈ s.flight)) :
    s'.answered r = s.answered r := by
  by_cases hanswered : ∃ m ∈ s.flight, isAnswer m = true ∧ m.id = q.pendingSubscriptionId
  · obtain ⟨m, hm, hanswer, hid⟩ := hanswered
    rw [answered_of_mem hq hm hanswer hid, answered_of_mem hq' ((h m hanswer hid).mpr hm) hanswer hid]
  · simp only [not_exists, not_and] at hanswered
    rw [answered_eq_none hq hanswered, answered_eq_none hq' fun m hm hanswer hid =>
      hanswered m ((h m hanswer hid).mp hm) hanswer hid]

omit [DecidableEq Address] in
/-- What the proxy has to handle depends on the queue and the answers to its first entry. -/
lemma work_congr {s' : TwoLevels Address Ident} (hqueue : s'.info.queue r = s.info.queue r)
    (h : ∀ q ∈ s.info.queue r, ∀ m, isAnswer m = true → m.id = q.pendingSubscriptionId →
      (m ∈ s'.flight ↔ m ∈ s.flight)) : s'.work r = s.work r := by
  rw [work, work, hqueue]
  congr 1
  cases hq : s.info.queue r with
  | nil => rw [answered_of_nil hq, answered_of_nil (hqueue.trans hq)]
  | cons q rest =>
    exact answered_congr (hqueue.trans hq) hq (h q (by rw [hq]; exact List.mem_cons_self))

/-- There is one command in flight for an id. -/
lemma Inv.eq_of_id_eq (hs : s.Inv counted) {m m' : RemoteCommand} (hm : m ∈ s.flight)
    (hm' : m' ∈ s.flight) (h : m.id = m'.id) : m = m' :=
  List.inj_on_of_nodup_map hs.sole hm hm' h

omit [DecidableEq Address] in
/-- The commands for an entry have its id. -/
lemma id_of_mem_commandsFor {m : RemoteCommand} (h : m ∈ commandsFor q) :
    m.id = q.pendingSubscriptionId := by
  rw [commandsFor] at h
  split at h
  · rcases List.mem_pair.mp h with rfl | rfl <;> rfl
  · rcases List.mem_pair.mp h with rfl | rfl <;> rfl

omit [DecidableEq Address] in
/-- The request for an entry is one of its commands. -/
lemma ofRequest_mem_commandsFor (q : PendingSubscription Address Ident) :
    .ofRequest (q.pendingSubscriptionId, q.isSubscribe) ∈ commandsFor q := by
  rw [commandsFor]
  cases q.isSubscribe <;> simp [RemoteCommand.ofRequest]

omit [DecidableEq Address] in
/-- A SUBSCRIBE and its acknowledgement are for an entry that subscribes. -/
lemma isSubscribe_of_mem_commandsFor {id : UInt16}
    (h : .subscribe id ∈ commandsFor q ∨ .subscribeAck id ∈ commandsFor q) :
    q.isSubscribe = true := by
  by_contra hsub
  rw [commandsFor, if_neg hsub] at h
  simp at h

omit [DecidableEq Address] in
/-- An UNSUBSCRIBE and its acknowledgement are for an entry that unsubscribes. -/
lemma not_isSubscribe_of_mem_commandsFor {id : UInt16}
    (h : .unsubscribe id ∈ commandsFor q ∨ .unsubscribeAck id ∈ commandsFor q) :
    q.isSubscribe = false := by
  by_contra hsub
  rw [commandsFor, if_pos (by simpa using hsub)] at h
  simp at h

/-- The ids of the commands are pending. -/
lemma Inv.id_ne_nextId (hs : s.Inv counted)
    (hfresh : s.info.pendingSubscriptions s.info.nextId = none) {m : RemoteCommand}
    (hm : m ∈ s.flight) : m.id ≠ s.info.nextId := by
  intro hid
  obtain ⟨r, q, rest, hq, hmq⟩ := hs.commands m hm
  obtain ⟨-, p, hp, -⟩ := hs.consistent.mem_queue_iff.mp
    (show q ∈ s.info.queue r by rw [hq]; exact List.mem_cons_self)
  rw [← id_of_mem_commandsFor hmq, hid, hfresh] at hp
  cases hp

/-- An entry is put at the end of its queue with the next id, and is sent if it is the first one. -/
structure Enters (s s' : TwoLevels Address Ident) (p : PendingSubscription Address Ident) : Prop where
  queue : s'.info.queue = Function.update s.info.queue p.subscriber.remote
    (s.info.queue p.subscriber.remote ++ [p.withId s.info.nextId])
  flight : s'.flight = s.flight ++ if s.info.queue p.subscriber.remote = []
    then [.ofRequest (s.info.nextId, p.isSubscribe)] else []

namespace Enters

variable {s' : TwoLevels Address Ident}

/-- The queue of the remote after an entry is put there. -/
lemma queue_self (h : s.Enters s' p) : s'.info.queue p.subscriber.remote =
    s.info.queue p.subscriber.remote ++ [p.withId s.info.nextId] := by
  rw [h.queue, Function.update_self]

/-- Other queues stay after an entry is put into one. -/
lemma queue_other (h : s.Enters s' p) (hr : r ≠ p.subscriber.remote) :
    s'.info.queue r = s.info.queue r := by
  rw [h.queue, Function.update_of_ne hr]

/-- What is in the queues after an entry is put into one. -/
lemma mem_queue_iff (h : s.Enters s' p) : q ∈ s'.info.queue r ↔
    q ∈ s.info.queue r ∨ r = p.subscriber.remote ∧ q = p.withId s.info.nextId :=
  EventgroupInfo.mem_queue_of_append h.queue

/-- The first entry of a queue stays the first one. -/
lemma queue_cons (h : s.Enters s' p) (hq : s.info.queue r = q :: rest) :
    ∃ rest', s'.info.queue r = q :: rest' := by
  obtain ⟨rest', hnew, -⟩ := EventgroupInfo.queue_cons_of_append h.queue hq
  exact ⟨rest', hnew⟩

/-- What is in flight after an entry is put into a queue. -/
lemma mem_flight_iff (h : s.Enters s' p) {m : RemoteCommand} : m ∈ s'.flight ↔ m ∈ s.flight ∨
    s.info.queue p.subscriber.remote = [] ∧ m = .ofRequest (s.info.nextId, p.isSubscribe) := by
  rw [h.flight, List.mem_append]
  split
  · rename_i hnil
    rw [List.mem_singleton, and_iff_right hnil]
  · rename_i hnil
    simp [hnil]

/-- No answer is sent. -/
lemma mem_flight_of_isAnswer (h : s.Enters s' p) {m : RemoteCommand} (hm : isAnswer m = true) :
    m ∈ s'.flight ↔ m ∈ s.flight := by
  rw [h.mem_flight_iff, or_iff_left]
  rintro ⟨-, rfl⟩
  simp at hm

/-- An entry at the end of a queue answers nothing. -/
lemma answered (h : s.Enters s' p) (hs : s.Inv counted)
    (hfresh : s.info.pendingSubscriptions s.info.nextId = none) (r : Address × UInt16) :
    s'.answered r = s.answered r := by
  cases hold : s.info.queue r with
  | nil =>
    rw [answered_of_nil hold]
    by_cases hr : r = p.subscriber.remote
    · subst hr
      have hnew : s'.info.queue p.subscriber.remote = [p.withId s.info.nextId] := by
        rw [h.queue_self, hold, List.nil_append]
      refine answered_eq_none hnew fun m hm hanswer => ?_
      exact hs.id_ne_nextId hfresh ((h.mem_flight_of_isAnswer hanswer).mp hm)
    · exact answered_of_nil ((h.queue_other hr).trans hold)
  | cons q rest =>
    obtain ⟨rest', hnew⟩ := h.queue_cons hold
    exact answered_congr hnew hold fun m hanswer _ => h.mem_flight_of_isAnswer hanswer

/-- The proxy has to handle the entry as well, unless the one before it is of the same kind. -/
lemma work_self (h : s.Enters s' p) (hs : s.Inv counted)
    (hfresh : s.info.pendingSubscriptions s.info.nextId = none) :
    s'.work p.subscriber.remote = s.work p.subscriber.remote ++
      if s.forwards p.subscriber p.isSubscribe then [p.withId s.info.nextId] else [] := by
  have hkind : ((s.info.queue p.subscriber.remote).getLast?.map (·.isSubscribe)).or
      (s.answered p.subscriber.remote) =
        (s.info.queue p.subscriber.remote).getLast?.map (·.isSubscribe) := by
    cases hold : s.info.queue p.subscriber.remote with
    | nil => rw [answered_of_nil hold]; rfl
    | cons q rest => simp [List.getLast?_cons]
  rw [work, h.answered hs hfresh, h.queue_self, forwarded_append, hkind, forwards, work]
  congr 1
  by_cases hb : (s.info.queue p.subscriber.remote).getLast?.map (·.isSubscribe) =
      some p.isSubscribe
  · simp [hb]
  · simp [hb]

/-- The proxy has the same to handle for other remotes. -/
lemma work_other (h : s.Enters s' p) (hs : s.Inv counted)
    (hfresh : s.info.pendingSubscriptions s.info.nextId = none) (hr : r ≠ p.subscriber.remote) :
    s'.work r = s.work r := by
  rw [work, work, h.answered hs hfresh, h.queue_other hr]

/-- No two commands have the same id, because the next id is not pending. -/
lemma sole (h : s.Enters s' p) (hs : s.Inv counted)
    (hfresh : s.info.pendingSubscriptions s.info.nextId = none) :
    (s'.flight.map (·.id)).Nodup := by
  rw [h.flight, List.map_append]
  refine hs.sole.append ?_ fun id hid hid' => ?_
  · split
    · exact List.nodup_singleton _
    · exact List.nodup_nil
  · obtain ⟨m, hm, rfl⟩ := List.mem_map.mp hid
    split at hid'
    · rw [List.map_singleton, List.mem_singleton, RemoteCommand.id_ofRequest] at hid'
      exact hs.id_ne_nextId hfresh hm hid'
    · cases hid'

/-- There is a command for the first entry of each queue. -/
lemma out (h : s.Enters s' p) (hs : s.Inv counted) (hq : s'.info.queue r = q :: rest) :
    ∃ m ∈ s'.flight, m.id = q.pendingSubscriptionId := by
  cases hold : s.info.queue r with
  | nil =>
    obtain ⟨rfl, rfl⟩ : r = p.subscriber.remote ∧ q = p.withId s.info.nextId := by
      have hmem := h.mem_queue_iff.mp (show q ∈ s'.info.queue r by rw [hq]; exact List.mem_cons_self)
      exact hmem.resolve_left fun hqr => by rw [hold] at hqr; cases hqr
    exact ⟨_, h.mem_flight_iff.mpr (.inr ⟨hold, rfl⟩), RemoteCommand.id_ofRequest _⟩
  | cons q₀ rest₀ =>
    obtain ⟨rest', hnew⟩ := h.queue_cons hold
    obtain ⟨rfl, -⟩ := List.cons.inj (hnew.symm.trans hq)
    obtain ⟨m, hm, hid⟩ := hs.out hold
    exact ⟨m, h.mem_flight_iff.mpr (.inl hm), hid⟩

/-- Each command is for the first entry of a queue. -/
lemma commands (h : s.Enters s' p) (hs : s.Inv counted) {m : RemoteCommand} (hm : m ∈ s'.flight) :
    ∃ r q rest, s'.info.queue r = q :: rest ∧ m ∈ commandsFor q := by
  obtain hm | ⟨hnil, rfl⟩ := h.mem_flight_iff.mp hm
  · obtain ⟨r, q, rest, hq, hmq⟩ := hs.commands m hm
    obtain ⟨rest', hnew⟩ := h.queue_cons hq
    exact ⟨r, q, rest', hnew, hmq⟩
  · refine ⟨p.subscriber.remote, p.withId s.info.nextId, [], ?_, ?_⟩
    · rw [h.queue_self, hnil, List.nil_append]
    · exact ofRequest_mem_commandsFor (p.withId s.info.nextId)

/-- The endpoints that are counted become those with a subscription, if the entry is sent on exactly
if it changes whether its endpoint has one. -/
lemma balance (h : s.Enters s' p) (hs : s.Inv counted)
    (hfresh : s.info.pendingSubscriptions s.info.nextId = none)
    (hlast : s'.last = Function.update s.last p.subscriber
      (if p.isSubscribe then .pending s.info.nextId else .stopped))
    (hforwards : s.forwards p.subscriber p.isSubscribe = (p.isSubscribe != s.wanted p.subscriber))
    (e : EndpointDefinition Address) :
    toggle e (decide (e ∈ counted)) (s'.work e.remote) = some (s'.wanted e) := by
  have hbalance := hs.balance e
  by_cases he : e = p.subscriber
  · subst he
    have hwanted : s'.wanted p.subscriber = p.isSubscribe := by
      rw [wanted, hlast, Function.update_self]
      cases p.isSubscribe <;> rfl
    rw [h.work_self hs hfresh, hwanted, hforwards]
    split
    · rename_i hchange
      rw [toggle_append, hbalance, Option.bind_some, toggle,
        if_pos (PendingSubscription.subscriber_withId ..), if_neg]
      · rfl
      · simpa using hchange
    · rename_i hsame
      have hsame : p.isSubscribe = s.wanted p.subscriber := by simpa using hsame
      rw [List.append_nil, hbalance, hsame]
  · have hwanted : s'.wanted e = s.wanted e := by
      rw [wanted, wanted, hlast, Function.update_of_ne he]
    rw [hwanted]
    by_cases hr : e.remote = p.subscriber.remote
    · rw [hr] at hbalance ⊢
      rw [h.work_self hs hfresh]
      split
      · have hne : (p.withId s.info.nextId).subscriber ≠ e := Ne.symm he
        rw [toggle_append, hbalance, Option.bind_some, toggle_cons_of_ne hne]
        rfl
      · rw [List.append_nil, hbalance]
    · rw [h.work_other hs hfresh hr, hbalance]

end Enters

/-- **An entry is put at the end of its queue,** and is sent on exactly if it changes whether its
endpoint has a subscription. -/
lemma Inv.of_entry (hs : s.Inv counted) (hfresh : s.info.pendingSubscriptions s.info.nextId = none)
    (hcons : info.Consistent)
    (hqueue : info.queue = Function.update s.info.queue p.subscriber.remote
      (s.info.queue p.subscriber.remote ++ [p.withId s.info.nextId]))
    (hident : p.isSubscribe → p.sdMessageIdentifier.isSome)
    (hforwards : s.forwards p.subscriber p.isSubscribe = (p.isSubscribe != s.wanted p.subscriber)) :
    ({ s with
       info
       flight := s.flight ++ if s.info.queue p.subscriber.remote = []
        then [.ofRequest (s.info.nextId, p.isSubscribe)] else []
       last := Function.update s.last p.subscriber
        (if p.isSubscribe then .pending s.info.nextId else .stopped) } :
      TwoLevels Address Ident).Inv counted := by
  set s' : TwoLevels Address Ident :=
    { s with
      info
      flight := s.flight ++ if s.info.queue p.subscriber.remote = []
        then [.ofRequest (s.info.nextId, p.isSubscribe)] else []
      last := Function.update s.last p.subscriber
        (if p.isSubscribe then .pending s.info.nextId else .stopped) } with hs'
  have h : s.Enters s' p := ⟨hqueue, rfl⟩
  refine
    { consistent := hcons
      idents := fun {r q} hq => ?_
      commands := fun m hm => h.commands hs hm
      sole := h.sole hs hfresh
      out := fun {r q rest} hq => h.out hs hq
      pendingLast := fun {e id} he => ?_
      nodup := hs.nodup
      count := hs.count
      balance := h.balance hs hfresh rfl hforwards
      subscribed := hs.subscribed }
  · obtain hq | ⟨-, rfl⟩ := h.mem_queue_iff.mp hq
    · exact hs.idents hq
    · exact hident
  · change Function.update _ _ _ e = _ at he
    by_cases hep : e = p.subscriber
    · subst hep
      rw [Function.update_self] at he
      split at he
      · rename_i hsub
        exact ⟨p.withId s.info.nextId, h.mem_queue_iff.mpr (.inr ⟨rfl, rfl⟩),
          LastEntry.pending.inj he, rfl, hsub⟩
      · cases he
    · rw [Function.update_of_ne hep] at he
      obtain ⟨q, hq, hrest⟩ := hs.pendingLast he
      exact ⟨q, h.mem_queue_iff.mpr (.inl hq), hrest⟩

/-- A request for the first entry of a queue has not been answered. -/
lemma Inv.answered_of_request (hs : s.Inv counted) (hq : s.info.queue r = q :: rest)
    {m : RemoteCommand} (hm : m ∈ s.flight) (hid : m.id = q.pendingSubscriptionId)
    (hrequest : isAnswer m = false) : s.answered r = none := by
  refine answered_eq_none hq fun m' hm' hanswer hid' => ?_
  rw [hs.eq_of_id_eq hm' hm (hid'.trans hid.symm), hrequest] at hanswer
  cases hanswer

/-- The proxy handles the request for the first entry of a queue, and sends its answer. -/
structure Handles (s s' : TwoLevels Address Ident) (r : Address × UInt16)
    (q : PendingSubscription Address Ident) (rest : List (PendingSubscription Address Ident))
    (request answer : RemoteCommand) : Prop where
  first : s.info.queue r = q :: rest
  mem : request ∈ s.flight
  isRequest : isAnswer request = false
  id : request.id = q.pendingSubscriptionId
  isAnswer : isAnswer answer = true
  command : answer ∈ commandsFor q
  info : s'.info = s.info
  flight : s'.flight = s.flight.erase request ++ [answer]

namespace Handles

variable {s' : TwoLevels Address Ident} {request answer : RemoteCommand}

omit [DecidableEq Address] in
/-- The entry that is handled is in its queue. -/
lemma mem_queue (h : s.Handles s' r q rest request answer) : q ∈ s.info.queue r :=
  h.first ▸ List.mem_cons_self

omit [DecidableEq Address] in
/-- The answer has the id of its entry. -/
lemma id_answer (h : s.Handles s' r q rest request answer) : answer.id = q.pendingSubscriptionId :=
  id_of_mem_commandsFor h.command

/-- What is in flight after a request is handled. -/
lemma mem_flight_iff (h : s.Handles s' r q rest request answer) (hs : s.Inv counted)
    {m : RemoteCommand} : m ∈ s'.flight ↔ m ≠ request ∧ m ∈ s.flight ∨ m = answer := by
  rw [h.flight, List.mem_append, hs.sole.of_map.mem_erase_iff, List.mem_singleton]

/-- No two commands have the same id. -/
lemma sole (h : s.Handles s' r q rest request answer) (hs : s.Inv counted) :
    (s'.flight.map (·.id)).Nodup := by
  have hsole := hs.sole
  have hperm := (List.perm_cons_erase h.mem).map RemoteCommand.id
  rw [h.flight, List.map_append, List.map_singleton]
  rw [hperm.nodup_iff, List.map_cons, h.id, ← h.id_answer] at hsole
  exact (List.perm_append_singleton _ _).nodup_iff.mpr hsole

/-- There is a command for the first entry of each queue. -/
lemma out (h : s.Handles s' r q rest request answer) (hs : s.Inv counted) {r' : Address × UInt16}
    {q' : PendingSubscription Address Ident} {rest' : List (PendingSubscription Address Ident)}
    (hq' : s.info.queue r' = q' :: rest') : ∃ m ∈ s'.flight, m.id = q'.pendingSubscriptionId := by
  obtain ⟨m, hm, hid⟩ := hs.out hq'
  by_cases hmr : m = request
  · subst hmr
    exact ⟨answer, (h.mem_flight_iff hs).mpr (.inr rfl), h.id_answer.trans (h.id.symm.trans hid)⟩
  · exact ⟨m, (h.mem_flight_iff hs).mpr (.inl ⟨hmr, hm⟩), hid⟩

/-- Each command is for the first entry of a queue. -/
lemma commands (h : s.Handles s' r q rest request answer) (hs : s.Inv counted) {m : RemoteCommand}
    (hm : m ∈ s'.flight) : ∃ r q rest, s.info.queue r = q :: rest ∧ m ∈ commandsFor q := by
  rcases (h.mem_flight_iff hs).mp hm with ⟨-, hm⟩ | rfl
  · exact hs.commands m hm
  · exact ⟨r, q, rest, h.first, h.command⟩

/-- The proxy has handled the first entry of the queue. -/
lemma work_self (h : s.Handles s' r q rest request answer) (hs : s.Inv counted) :
    s.work r = q :: s'.work r := by
  have hfirst : s'.info.queue r = q :: rest := h.info ▸ h.first
  have hanswered : s'.answered r = some q.isSubscribe :=
    answered_of_mem hfirst ((h.mem_flight_iff hs).mpr (.inr rfl)) h.isAnswer h.id_answer
  rw [work, work, hs.answered_of_request h.first h.mem h.id h.isRequest, hanswered, hfirst, h.first,
    forwarded_cons_self, forwarded_cons]

/-- The proxy has the same to handle for other remotes after a request. -/
lemma work_other (h : s.Handles s' r q rest request answer) (hs : s.Inv counted)
    {r' : Address × UInt16} (hr : r' ≠ r) : s'.work r' = s.work r' := by
  refine work_congr (by rw [h.info]) fun q' hq' m hanswer hid => ?_
  have hrequestNe : m ≠ request := by
    rintro rfl
    rw [h.isRequest] at hanswer
    cases hanswer
  have hanswerNe : m ≠ answer := by
    rintro rfl
    exact hs.consistent.id_ne_of_remote_ne h.mem_queue hq' hr (h.id_answer.symm.trans hid)
  rw [h.mem_flight_iff hs, or_iff_left hanswerNe, and_iff_right hrequestNe]

/-- The endpoints that are counted become those with a subscription, if that of the entry is counted
now exactly if the entry subscribes. -/
lemma balance (h : s.Handles s' r q rest request answer) (hs : s.Inv counted)
    {counted' : List (EndpointDefinition Address)}
    (hcounted : ∀ e, e ≠ q.subscriber → (e ∈ counted' ↔ e ∈ counted))
    (hself : q.subscriber ∈ counted' ↔ q.isSubscribe = true) (e : EndpointDefinition Address) :
    toggle e (decide (e ∈ counted')) (s'.work e.remote) = some (s.wanted e) := by
  have hbalance := hs.balance e
  by_cases he : e = q.subscriber
  · subst he
    rw [hs.consistent.remote_of_mem h.mem_queue] at hbalance ⊢
    rw [h.work_self hs] at hbalance
    have hdecide : decide (q.subscriber ∈ counted') = q.isSubscribe := by
      rw [Bool.eq_iff_iff, decide_eq_true_iff]
      exact hself
    rw [hdecide]
    exact (toggle_cons_self hbalance).2
  · have hdecide : decide (e ∈ counted') = decide (e ∈ counted) :=
      decide_eq_decide.mpr (hcounted e he)
    rw [hdecide]
    by_cases hr : e.remote = r
    · rw [hr] at hbalance ⊢
      rw [h.work_self hs, toggle_cons_of_ne (Ne.symm he)] at hbalance
      exact hbalance
    · rw [h.work_other hs hr]
      exact hbalance

end Handles

/-- **The proxy handles a request** for the first entry of a queue, and counts its endpoint or does
not count it any more. -/
lemma Inv.of_request (hs : s.Inv counted) (hq : s.info.queue r = q :: rest)
    {request answer : RemoteCommand} (hm : request ∈ s.flight)
    (hrequest : isAnswer request = false) (hid : request.id = q.pendingSubscriptionId)
    (hanswer : isAnswer answer = true) (hcommand : answer ∈ commandsFor q)
    {proxy : ProxyEventgroup} {counted' : List (EndpointDefinition Address)}
    (hnodup : counted'.Nodup)
    (hcounted : ∀ e, e ≠ q.subscriber → (e ∈ counted' ↔ e ∈ counted))
    (hself : q.subscriber ∈ counted' ↔ q.isSubscribe = true)
    (hcount : proxy.remoteSubscriberCount.toNat = counted'.length)
    (hsubscribed : ∀ event ∈ proxy.events, proxy.subscribed event = !counted'.isEmpty) :
    ({ s with flight := s.flight.erase request ++ [answer], proxy } :
      TwoLevels Address Ident).Inv counted' := by
  set s' : TwoLevels Address Ident := { s with flight := s.flight.erase request ++ [answer], proxy }
    with hs'
  have h : s.Handles s' r q rest request answer :=
    ⟨hq, hm, hrequest, hid, hanswer, hcommand, rfl, rfl⟩
  exact
    { consistent := hs.consistent
      idents := hs.idents
      commands := fun m hm' => h.commands hs hm'
      sole := h.sole hs
      out := fun {r' q' rest'} hq' => h.out hs hq'
      pendingLast := hs.pendingLast
      nodup := hnodup
      count := hcount
      balance := h.balance hs hcounted hself
      subscribed := hsubscribed }

/-- **An endpoint renews its subscription.** -/
lemma Inv.of_renewal (hs : s.Inv counted) (hsame : EventgroupInfo.SamePending info s.info)
    {e : EndpointDefinition Address} (hwanted : s.wanted e = true) :
    ({ s with info, last := Function.update s.last e .accepted } :
      TwoLevels Address Ident).Inv counted := by
  set s' : TwoLevels Address Ident := { s with info, last := Function.update s.last e .accepted }
    with hs'
  have hqueue : s'.info.queue = s.info.queue := hsame.queue_eq
  have hwork (r : Address × UInt16) : s'.work r = s.work r := by
    rw [work, work, answered, answered, hqueue]
  have hwanted' (e' : EndpointDefinition Address) : s'.wanted e' = s.wanted e' := by
    by_cases he : e' = e
    · have hlast : s'.last e = .accepted := Function.update_self ..
      rw [he, hwanted, wanted, hlast]
    · have hlast : s'.last e' = s.last e' := Function.update_of_ne he _ _
      rw [wanted, wanted, hlast]
  refine
    { consistent := hsame.consistent hs.consistent
      idents := fun {r q} hq => hs.idents (hqueue ▸ hq : q ∈ s.info.queue r)
      commands := fun m hm => by rw [hqueue]; exact hs.commands m hm
      sole := hs.sole
      out := fun {r q rest} hq => hs.out (hqueue ▸ hq : s.info.queue r = q :: rest)
      pendingLast := fun {e' id} he' => ?_
      nodup := hs.nodup
      count := hs.count
      balance := fun e' => by rw [hwork, hwanted']; exact hs.balance e'
      subscribed := hs.subscribed }
  rw [hqueue]
  by_cases he : e' = e
  · have hlast : s'.last e = .accepted := Function.update_self ..
    rw [he, hlast] at he'
    cases he'
  · have hlast : s'.last e' = s.last e' := Function.update_of_ne he _ _
    rw [hlast] at he'
    exact hs.pendingLast he'

/-- The answer for the first entry of a queue is handled, and what is left of the queue is sent. -/
structure Releases (s s' : TwoLevels Address Ident) (r : Address × UInt16)
    (q : PendingSubscription Address Ident) (rest : List (PendingSubscription Address Ident))
    (answer : RemoteCommand) : Prop where
  first : s.info.queue r = q :: rest
  mem : answer ∈ s.flight
  isAnswer : isAnswer answer = true
  id : answer.id = q.pendingSubscriptionId
  queue : s'.info.queue = Function.update s.info.queue r (EventgroupInfo.left q rest)
  flight : s'.flight = s.flight.erase answer ++ (EventgroupInfo.left q rest).head?.toList.map
    fun p => .ofRequest (p.pendingSubscriptionId, p.isSubscribe)

namespace Releases

variable {s' : TwoLevels Address Ident} {answer : RemoteCommand}

/-- The entry that is released is in its queue. -/
lemma mem_queue (h : s.Releases s' r q rest answer) : q ∈ s.info.queue r :=
  h.first ▸ List.mem_cons_self

/-- What is left of a queue is an end of it. -/
lemma left_suffix (h : s.Releases s' r q rest answer) :
    EventgroupInfo.left q rest <:+ s.info.queue r :=
  h.first ▸ EventgroupInfo.left_suffix.trans (List.suffix_cons q rest)

/-- The queue of the remote after its first entry is released. -/
lemma queue_self (h : s.Releases s' r q rest answer) :
    s'.info.queue r = EventgroupInfo.left q rest := by
  rw [h.queue, Function.update_self]

/-- Other queues stay after an entry is released. -/
lemma queue_other (h : s.Releases s' r q rest answer) {r' : Address × UInt16} (hr : r' ≠ r) :
    s'.info.queue r' = s.info.queue r' := by
  rw [h.queue, Function.update_of_ne hr]

/-- After a release each queue is an end of what it was. -/
lemma queue_suffix (h : s.Releases s' r q rest answer) (r' : Address × UInt16) :
    s'.info.queue r' <:+ s.info.queue r' :=
  EventgroupInfo.queue_suffix_of_left h.queue h.first r'

/-- What is in flight after a release: the request for the first entry that is left. -/
lemma mem_flight_iff (h : s.Releases s' r q rest answer) (hs : s.Inv counted) {m : RemoteCommand} :
    m ∈ s'.flight ↔ m ≠ answer ∧ m ∈ s.flight ∨
      ∃ p, (EventgroupInfo.left q rest).head? = some p ∧
        m = .ofRequest (p.pendingSubscriptionId, p.isSubscribe) := by
  rw [h.flight, List.mem_append, hs.sole.of_map.mem_erase_iff]
  simp only [List.mem_map, Option.mem_toList, eq_comm (a := m)]

/-- The other commands are for entries of other remotes. -/
lemma exists_other (h : s.Releases s' r q rest answer) (hs : s.Inv counted) {m : RemoteCommand}
    (hm : m ∈ s.flight) (hne : m ≠ answer) :
    ∃ r' q' rest', r' ≠ r ∧ s.info.queue r' = q' :: rest' ∧ m ∈ commandsFor q' := by
  obtain ⟨r', q', rest', hq', hmq'⟩ := hs.commands m hm
  refine ⟨r', q', rest', ?_, hq', hmq'⟩
  rintro rfl
  obtain ⟨rfl, -⟩ := List.cons.inj (h.first.symm.trans hq')
  exact hne (hs.eq_of_id_eq hm h.mem ((id_of_mem_commandsFor hmq').trans h.id.symm))

/-- No two commands have the same id. -/
lemma sole (h : s.Releases s' r q rest answer) (hs : s.Inv counted) :
    (s'.flight.map (·.id)).Nodup := by
  rw [h.flight, List.map_append, List.map_map]
  refine (hs.sole.sublist (List.erase_sublist.map _)).append ?_ fun id hid hid' => ?_
  · cases (EventgroupInfo.left q rest).head? with
    | none => exact List.nodup_nil
    | some p => exact List.nodup_singleton _
  · obtain ⟨m, hm, rfl⟩ := List.mem_map.mp hid
    rw [hs.sole.of_map.mem_erase_iff] at hm
    obtain ⟨r', q', rest', hr, hq', hmq'⟩ := h.exists_other hs hm.2 hm.1
    obtain ⟨p, hp, hpm⟩ := List.mem_map.mp hid'
    rw [Function.comp_apply, RemoteCommand.id_ofRequest, id_of_mem_commandsFor hmq'] at hpm
    have hp : p ∈ s.info.queue r :=
      h.left_suffix.subset (List.mem_of_mem_head? (Option.mem_toList.mp hp))
    exact hs.consistent.id_ne_of_remote_ne hp (hq' ▸ List.mem_cons_self) hr hpm

/-- The request for what is left of the queue has not been answered. -/
lemma answered (h : s.Releases s' r q rest answer) (hs : s.Inv counted) : s'.answered r = none := by
  cases hleft : EventgroupInfo.left q rest with
  | nil => exact answered_of_nil (h.queue_self.trans hleft)
  | cons p rest' =>
    refine answered_eq_none (h.queue_self.trans hleft) fun m hm hanswer hid => ?_
    have hrequest : .ofRequest (p.pendingSubscriptionId, p.isSubscribe) ∈ s'.flight :=
      (h.mem_flight_iff hs).mpr (.inr ⟨p, by rw [hleft, List.head?_cons], rfl⟩)
    have hsame : m.id = (RemoteCommand.ofRequest (p.pendingSubscriptionId, p.isSubscribe)).id := by
      rw [hid, RemoteCommand.id_ofRequest]
    rw [List.inj_on_of_nodup_map (h.sole hs) hm hrequest hsame, isAnswer_ofRequest] at hanswer
    cases hanswer

/-- The proxy has as much to handle as before. -/
lemma work (h : s.Releases s' r q rest answer) (hs : s.Inv counted) (r' : Address × UInt16) :
    s'.work r' = s.work r' := by
  by_cases hr : r' = r
  · subst hr
    rw [TwoLevels.work, TwoLevels.work, answered_of_mem h.first h.mem h.isAnswer h.id, h.answered hs,
      h.queue_self, h.first, forwarded_cons_self]
  · refine work_congr (h.queue_other hr) fun q' hq' m hanswer hid => ?_
    have hne : m ≠ answer := by
      rintro rfl
      exact hs.consistent.id_ne_of_remote_ne h.mem_queue hq' hr (h.id.symm.trans hid)
    rw [h.mem_flight_iff hs, and_iff_right hne, or_iff_left]
    rintro ⟨p, -, rfl⟩
    simp at hanswer

/-- Each command is for the first entry of a queue. -/
lemma commands (h : s.Releases s' r q rest answer) (hs : s.Inv counted) {m : RemoteCommand}
    (hm : m ∈ s'.flight) : ∃ r q rest, s'.info.queue r = q :: rest ∧ m ∈ commandsFor q := by
  obtain ⟨hne, hm⟩ | ⟨p, hp, rfl⟩ := (h.mem_flight_iff hs).mp hm
  · obtain ⟨r', q', rest', hr, hq', hmq'⟩ := h.exists_other hs hm hne
    exact ⟨r', q', rest', (h.queue_other hr).trans hq', hmq'⟩
  · obtain ⟨rest', hrest'⟩ := List.head?_eq_some_iff.mp hp
    exact ⟨r, p, rest', h.queue_self.trans hrest', ofRequest_mem_commandsFor p⟩

/-- There is a command for the first entry of each queue. -/
lemma out (h : s.Releases s' r q rest answer) (hs : s.Inv counted) {r' : Address × UInt16}
    {q' : PendingSubscription Address Ident} {rest' : List (PendingSubscription Address Ident)}
    (hq' : s'.info.queue r' = q' :: rest') :
    ∃ m ∈ s'.flight, m.id = q'.pendingSubscriptionId := by
  by_cases hr : r' = r
  · subst hr
    refine ⟨_, (h.mem_flight_iff hs).mpr (.inr ⟨q', ?_, rfl⟩), RemoteCommand.id_ofRequest _⟩
    rw [← h.queue_self, hq', List.head?_cons]
  · rw [h.queue_other hr] at hq'
    obtain ⟨m, hm, hid⟩ := hs.out hq'
    refine ⟨m, (h.mem_flight_iff hs).mpr (.inl ⟨?_, hm⟩), hid⟩
    rintro rfl
    exact hs.consistent.id_ne_of_remote_ne h.mem_queue (hq' ▸ List.mem_cons_self) hr
      (h.id.symm.trans hid)

end Releases

/-- **The routing manager handles an answer** for the first entry of a queue. What is left of the
queue is sent next, so the proxy has as much to handle as before. -/
lemma Inv.of_answer (hs : s.Inv counted) (hq : s.info.queue r = q :: rest) {answer : RemoteCommand}
    (hm : answer ∈ s.flight) (hanswer : isAnswer answer = true)
    (hid : answer.id = q.pendingSubscriptionId) (hcons : info.Consistent)
    (hqueue : info.queue = Function.update s.info.queue r (EventgroupInfo.left q rest))
    {last : EndpointDefinition Address → LastEntry}
    (hpending : ∀ {e id}, last e = .pending id → ∃ q ∈ info.queue e.remote,
      q.pendingSubscriptionId = id ∧ q.subscriber = e ∧ q.isSubscribe = true)
    (hwanted : ∀ e, ({ s with last } : TwoLevels Address Ident).wanted e = s.wanted e) :
    ({ s with
       info
       flight := s.flight.erase answer ++ (EventgroupInfo.left q rest).head?.toList.map
        fun p => .ofRequest (p.pendingSubscriptionId, p.isSubscribe)
       last } : TwoLevels Address Ident).Inv counted := by
  set s' : TwoLevels Address Ident :=
    { s with
      info
      flight := s.flight.erase answer ++ (EventgroupInfo.left q rest).head?.toList.map
        fun p => .ofRequest (p.pendingSubscriptionId, p.isSubscribe)
      last } with hs'
  have h : s.Releases s' r q rest answer := ⟨hq, hm, hanswer, hid, hqueue, rfl⟩
  exact
    { consistent := hcons
      idents := fun {r' p} hp => hs.idents ((h.queue_suffix r').subset hp)
      commands := fun m hm' => h.commands hs hm'
      sole := h.sole hs
      out := fun {r' q' rest'} hq' => h.out hs hq'
      pendingLast := fun he => hpending he
      nodup := hs.nodup
      count := hs.count
      balance := fun e => by
        have hwanted' : s'.wanted e = s.wanted e := hwanted e
        rw [hwanted', h.work hs]
        exact hs.balance e
      subscribed := hs.subscribed }

/-- The endpoint of a request is counted exactly if the request is to stop that. -/
lemma Inv.mem_counted_of_request (hs : s.Inv counted) (hq : s.info.queue r = q :: rest)
    {m : RemoteCommand} (hm : m ∈ s.flight) (hid : m.id = q.pendingSubscriptionId)
    (hrequest : isAnswer m = false) : decide (q.subscriber ∈ counted) = !q.isSubscribe := by
  have hbalance := hs.balance q.subscriber
  have hqmem : q ∈ s.info.queue r := hq ▸ List.mem_cons_self
  rw [hs.consistent.remote_of_mem hqmem, work, hs.answered_of_request hq hm hid hrequest, hq,
    forwarded_cons] at hbalance
  exact (toggle_cons_self hbalance).1

/-- The proxy counts the endpoint of a subscription. -/
lemma Inv.step_decide (hs : s.Inv counted) {offering : { c : UInt16 // c ≠ routingClient }}
    {id : UInt16} {accept : Bool} (hcounted : s.Counted (.decide id accept)) :
    ∃ counted', (s.step offering (.decide id accept)).Inv counted' := by
  obtain ⟨rfl, hbound⟩ := hcounted
  rw [step]
  split
  · rename_i hm
    obtain ⟨r, q, rest, hq, hmq⟩ := hs.commands _ hm
    have hid := id_of_mem_commandsFor hmq
    have hsub : q.isSubscribe = true := isSubscribe_of_mem_commandsFor (.inl hmq)
    have hnot := hs.mem_counted_of_request hq hm hid rfl
    rw [hsub, Bool.not_true, decide_eq_false_iff_not] at hnot
    have hcommand : RemoteCommand.subscribeAck id ∈ commandsFor q := by
      rw [commandsFor, if_pos hsub, ← hid]
      exact List.mem_cons_of_mem _ List.mem_cons_self
    refine ⟨q.subscriber :: counted, hs.of_request hq hm rfl hid rfl hcommand
      (List.nodup_cons.mpr ⟨hnot, hs.nodup⟩) (fun e he => ?_) ?_ ?_ fun event hevent => ?_⟩
    · rw [List.mem_cons, or_iff_right he]
    · simp [hsub]
    · change (s.proxy.remoteSubscriberCount + 1).toNat = _
      rw [UInt32.toNat_add, List.length_cons, ← hs.count]
      exact Nat.mod_eq_of_lt hbound
    · rw [s.proxy.subscribed_onSubscribe hevent]
      rfl
  · exact ⟨counted, hs⟩

/-- The proxy does not count the endpoint of an unsubscription any more. -/
lemma Inv.step_withdraw (hs : s.Inv counted) {offering : { c : UInt16 // c ≠ routingClient }}
    {id : UInt16} : ∃ counted', (s.step offering (.withdraw id)).Inv counted' := by
  rw [step]
  split
  · rename_i hm
    obtain ⟨r, q, rest, hq, hmq⟩ := hs.commands _ hm
    have hid := id_of_mem_commandsFor hmq
    have hsub : q.isSubscribe = false := not_isSubscribe_of_mem_commandsFor (.inl hmq)
    have hmem := hs.mem_counted_of_request hq hm hid rfl
    rw [hsub, Bool.not_false, decide_eq_true_iff] at hmem
    have hcommand : RemoteCommand.unsubscribeAck id ∈ commandsFor q := by
      rw [commandsFor, if_neg (by simp [hsub]), ← hid]
      exact List.mem_cons_of_mem _ List.mem_cons_self
    have hpos : 0 < s.proxy.remoteSubscriberCount := by
      rw [UInt32.lt_iff_toNat_lt, hs.count]
      exact List.length_pos_of_mem hmem
    have hcount : (s.proxy.getRemoteSubscriberCount false).toNat =
        (counted.erase q.subscriber).length := by
      rw [ProxyEventgroup.getRemoteSubscriberCount, if_neg (by simp), if_pos hpos,
        UInt32.toNat_sub_of_le _ _ (by rw [UInt32.le_iff_toNat_le]; exact hpos), hs.count,
        List.length_erase_of_mem hmem]
      rfl
    refine ⟨counted.erase q.subscriber, hs.of_request hq hm rfl hid rfl hcommand
      (hs.nodup.erase _) (fun e he => ?_) ?_ ?_ fun event hevent => ?_⟩
    · rw [hs.nodup.mem_erase_iff, and_iff_right he]
    · simp [hs.nodup.mem_erase_iff, hsub]
    · rw [ProxyEventgroup.remoteSubscriberCount_onUnsubscribe, hcount]
    · rw [ProxyEventgroup.events_onUnsubscribe] at hevent
      have hnil : counted.isEmpty = false := List.isEmpty_eq_false_iff.mpr (List.ne_nil_of_mem hmem)
      rw [s.proxy.subscribed_onUnsubscribe hevent, hs.subscribed event hevent, hnil, Bool.not_false,
        Bool.and_true, Bool.eq_iff_iff, bne_iff_ne, ne_eq, ← UInt32.toNat_inj, hcount]
      simp
  · exact ⟨counted, hs⟩

/-- The routing manager handles the acknowledgement of a subscription. -/
lemma Inv.step_subscribeAck (hs : s.Inv counted) {offering : { c : UInt16 // c ≠ routingClient }}
    {now : ℕ} {client id : UInt16} (hm : .subscribeAck id ∈ s.flight) :
    (s.step offering (.receive now client (.subscribeAck id))).Inv counted := by
  obtain ⟨r, q, rest, hq, hmq⟩ := hs.commands _ hm
  obtain rfl : id = q.pendingSubscriptionId := id_of_mem_commandsFor hmq
  have hsub : q.isSubscribe = true := isSubscribe_of_mem_commandsFor (.inr hmq)
  obtain ⟨hcons, hqueue, -, -, hcalls⟩ := hs.consistent.handle_subscribeAck offering.1 now
    hq (fun p hp => hs.idents hp) offering.2 client
  have hafter (e : EndpointDefinition Address) (l : LastEntry) :
      l.after ((EventgroupInfo.released q rest).map
        (EventgroupInfo.answerOf offering.1 client true)) e = _ :=
    Convergence.after_released hsub offering.1 client true e l
  simp only [TwoLevels.step, RemoteCommand.event, hm, if_true, hcalls, sends,
    Convergence.request_answerOf hsub, List.map_map]
  refine hs.of_answer hq hm rfl rfl hcons hqueue (fun {e id} he => ?_) fun e => ?_
  · rw [hafter] at he
    split at he
    · cases he
    · rename_i hnot
      obtain ⟨p, hp, rfl, rfl, hpsub⟩ := hs.pendingLast he
      refine ⟨p, ?_, rfl, rfl, hpsub⟩
      rw [hqueue]
      by_cases hr : p.subscriber.remote = r
      · rw [hr, Function.update_self]
        rw [hr, hq] at hp
        refine (EventgroupInfo.mem_taken_or_left hsub hp).resolve_left fun htaken => ?_
        exact hnot ⟨p, htaken, rfl, he⟩
      · rwa [Function.update_of_ne hr]
  · dsimp only [wanted]
    rw [hafter]
    by_cases htaken : ∃ p ∈ EventgroupInfo.taken q rest,
        p.subscriber = e ∧ s.last e = .pending p.pendingSubscriptionId
    · rw [if_pos htaken]
      obtain ⟨p, -, -, hlast⟩ := htaken
      rw [hlast]
      rfl
    · rw [if_neg htaken]

/-- The routing manager handles the acknowledgement of an unsubscription. -/
lemma Inv.step_unsubscribeAck (hs : s.Inv counted) {offering : { c : UInt16 // c ≠ routingClient }}
    {now : ℕ} {client id : UInt16} (hm : .unsubscribeAck id ∈ s.flight) :
    (s.step offering (.receive now client (.unsubscribeAck id))).Inv counted := by
  obtain ⟨r, q, rest, hq, hmq⟩ := hs.commands _ hm
  obtain rfl : id = q.pendingSubscriptionId := id_of_mem_commandsFor hmq
  have hsub : q.isSubscribe = false := not_isSubscribe_of_mem_commandsFor (.inr hmq)
  obtain ⟨hcons, hqueue, -, hcalls⟩ := hs.consistent.handle_unsubscribeAck offering.1 now hq
  simp only [TwoLevels.step, RemoteCommand.event, hm, if_true, hcalls, sends,
    Convergence.request_sendSubscription hsub, List.map_map, Convergence.after_sendSubscription]
  refine hs.of_answer hq hm rfl rfl hcons hqueue (fun {e id} he => ?_) fun e => rfl
  obtain ⟨p, hp, rfl, rfl, hpsub⟩ := hs.pendingLast he
  refine ⟨p, ?_, rfl, rfl, hpsub⟩
  rw [hqueue]
  by_cases hr : p.subscriber.remote = r
  · rw [hr, Function.update_self]
    rw [hr, hq] at hp
    refine (EventgroupInfo.not_isSubscribe_or_mem_left hsub hp).resolve_left fun hpsub' => ?_
    rw [hpsub] at hpsub'
    cases hpsub'
  · rwa [Function.update_of_ne hr]

/-- A Subscribe of a target renews it, and one of another endpoint is put into its queue. -/
lemma Inv.step_subscribe (hs : s.Inv counted) {offering : { c : UInt16 // c ≠ routingClient }}
    {now : ℕ} {e target : EndpointDefinition Address} {ttl : { t : UInt32 // 0 < t }}
    {sdMessageId : Ident} {client : UInt16}
    (hcounted : s.Counted (.subscribe now e target ttl sdMessageId client)) :
    (s.step offering (.subscribe now e target ttl sdMessageId client)).Inv counted := by
  rw [Counted] at hcounted
  split at hcounted
  · rename_i he
    obtain ⟨hsame, -, hcalls⟩ := EventgroupInfo.handle_subscribe_of_mem offering.1 now he target
      ttl sdMessageId client
    have hrenewal := hs.of_renewal hsame hcounted
    simp only [TwoLevels.step, hcalls]
    change Inv { s with info := _, flight := s.flight ++ [], last := _ } counted
    rw [List.append_nil]
    exact hrenewal
  · rename_i he
    obtain ⟨hfresh, hforwards⟩ := hcounted
    obtain ⟨hcons, hqueue, -, hinfo, hcalls⟩ :=
      hs.consistent.handle_subscribe_of_notMem offering.1 now hfresh he target ttl sdMessageId client
    have hentry := hs.of_entry (p := EventgroupInfo.subscription e target ttl.1 sdMessageId client)
      hfresh hcons hqueue (fun _ => rfl) (by
        rw [EventgroupInfo.isSubscribe_subscription, Bool.true_bne]
        exact hforwards)
    rw [EventgroupInfo.isSubscribe_subscription, if_pos rfl] at hentry
    have hsends : sends ((if s.info.queue e.remote = []
          then [RemoteOutput.sendSubscription offering.1 client s.info.nextId] else []) ++
        [.callback .pending client] : List (RemoteOutput Address Ident)) =
          if s.info.queue e.remote = [] then [.ofRequest (s.info.nextId, true)] else [] := by
      split <;> rfl
    simp only [TwoLevels.step, hcalls, hinfo, hsends, Convergence.any_isAcked_subscribe,
      Bool.false_eq_true, if_false]
    exact hentry

/-- A StopSubscribe is put into its queue. -/
lemma Inv.step_stopSubscribe (hs : s.Inv counted) {offering : { c : UInt16 // c ≠ routingClient }}
    {e : EndpointDefinition Address} {client : UInt16}
    (hcounted : s.Counted (.stopSubscribe e client)) :
    (s.step offering (.stopSubscribe e client)).Inv counted := by
  obtain ⟨hfresh, hforwards⟩ := hcounted
  obtain ⟨hcons, hqueue, -, -, hcalls⟩ :=
    hs.consistent.handle_stopSubscribe offering.1 0 hfresh e client
  have hentry := hs.of_entry (p := EventgroupInfo.unsubscription e client) hfresh hcons hqueue
    (fun h => by simp at h) (by
      rw [EventgroupInfo.isSubscribe_unsubscription, Bool.false_bne]
      exact hforwards)
  rw [EventgroupInfo.isSubscribe_unsubscription] at hentry
  have hsends : sends (if s.info.queue e.remote = []
        then [RemoteOutput.sendUnsubscription offering.1 client s.info.nextId] else [] :
      List (RemoteOutput Address Ident)) =
        if s.info.queue e.remote = [] then [.ofRequest (s.info.nextId, false)] else [] := by
    split <;> rfl
  simp only [TwoLevels.step, hcalls, hsends]
  exact hentry

/-- The routing manager receives a command. -/
lemma Inv.step_receive (hs : s.Inv counted) {offering : { c : UInt16 // c ≠ routingClient }}
    {now : ℕ} {client : UInt16} (answer : RemoteCommand) :
    (s.step offering (.receive now client answer)).Inv counted := by
  by_cases hm : answer ∈ s.flight
  · cases answer with
    | subscribe id => exact hs
    | unsubscribe id => exact hs
    | subscribeAck id => exact hs.step_subscribeAck hm
    | unsubscribeAck id => exact hs.step_unsubscribeAck hm
    | subscribeNack id =>
      -- nothing was rejected
      obtain ⟨r, q, rest, -, hmq⟩ := hs.commands _ hm
      rw [commandsFor] at hmq
      split at hmq <;> simp at hmq
  · have hsame : s.step offering (.receive now client answer) = s := by
      simp only [TwoLevels.step, if_neg hm]
      split <;> rfl
    rw [hsame]
    exact hs

/-- **Each step keeps the invariant** if it is counted right. -/
lemma Inv.step (hs : s.Inv counted) {offering : { c : UInt16 // c ≠ routingClient }}
    {action : LevelAction Address Ident} (hcounted : s.Counted action) :
    ∃ counted', (s.step offering action).Inv counted' := by
  cases action with
  | subscribe now e target ttl sdMessageId client => exact ⟨counted, hs.step_subscribe hcounted⟩
  | stopSubscribe e client => exact ⟨counted, hs.step_stopSubscribe hcounted⟩
  | decide id accept => exact hs.step_decide hcounted
  | withdraw id => exact hs.step_withdraw
  | receive now client answer => exact ⟨counted, hs.step_receive answer⟩

/-- When nothing is in flight, the endpoints that are counted are those with a subscription. -/
lemma Inv.mem_counted_iff (hs : s.Inv counted) (hflight : s.flight = [])
    (e : EndpointDefinition Address) : e ∈ counted ↔ s.last e = .accepted := by
  have hqueue (r : Address × UInt16) : s.info.queue r = [] := by
    cases hq : s.info.queue r with
    | nil => rfl
    | cons q rest =>
      obtain ⟨m, hm, -⟩ := hs.out hq
      rw [hflight] at hm
      cases hm
  have hbalance := hs.balance e
  rw [work, hqueue, forwarded, toggle, Option.some_inj, wanted] at hbalance
  cases hlast : s.last e with
  | pending id =>
    obtain ⟨q, hq, -⟩ := hs.pendingLast hlast
    rw [hqueue] at hq
    cases hq
  | _ => simpa [hlast] using hbalance

/-- When nothing is in flight, the two levels agree. -/
lemma Inv.agree (hs : s.Inv counted) (hflight : s.flight = []) : s.Agree := by
  have hmem := hs.mem_counted_iff hflight
  refine ⟨?_, fun event hevent => ?_⟩
  · have hset : { e | s.last e = .accepted } = (counted.toFinset : Set _) := by
      ext e
      simp [hmem]
    rw [hset, Set.encard_coe_eq_coe_finsetCard, List.toFinset_card_of_nodup hs.nodup, hs.count]
  · rw [hs.subscribed event hevent, Bool.not_eq_true', List.isEmpty_eq_false_iff_exists_mem]
    exact exists_congr hmem

end Inv

/-! ## Main results -/

/-- **The two levels agree.** In every run whose steps are counted right, whenever nothing is in
flight the count of the proxy is the number of endpoints with an accepted subscription, and the
routing client is a subscriber of the events exactly if there is one. -/
theorem agree_of_counted (offering : { c : UInt16 // c ≠ routingClient }) (isMulticast : Bool)
    (events : List UInt16) (actions : List (LevelAction Address Ident))
    (hcounted : Runs.Along (step offering) Counted (init isMulticast events) actions)
    (hflight : (Runs.run (step offering) (init isMulticast events) actions).flight = []) :
    (Runs.run (step offering) (init isMulticast events) actions).Agree := by
  obtain ⟨counted, hs⟩ := @Runs.inv_run_of_along _ _ (step offering) (fun s => ∃ counted, s.Inv counted)
    Counted (fun hs hcounted => hs.elim fun _ hs => hs.step hcounted) _ _
    ⟨[], inv_init isMulticast events⟩ hcounted
  exact hs.agree hflight

open Convergence (endpoint)

/-- An endpoint with another address. -/
def otherEndpoint : EndpointDefinition ℕ := ⟨2, 1000, true⟩

/-- Two endpoints subscribe, and are accepted in the other order. One of them renews its subscription,
and the other one ends it. -/
def exampleActions : List (LevelAction ℕ Unit) :=
  [.subscribe 0 endpoint endpoint ⟨3, by decide⟩ () 0,
    .subscribe 1 otherEndpoint otherEndpoint ⟨3, by decide⟩ () 0, .decide 2 true, .decide 1 true,
    .receive 2 0 (.subscribeAck 1), .receive 2 0 (.subscribeAck 2),
    .subscribe 3 otherEndpoint otherEndpoint ⟨3, by decide⟩ () 0, .stopSubscribe endpoint 0,
    .withdraw 3, .receive 4 0 (.unsubscribeAck 3)]

/-- One of the two endpoints has a subscription at the end. -/
theorem agree_of_counted_two :
    (Runs.run (step ⟨1, by decide⟩) (init false [0x8001]) exampleActions).last otherEndpoint =
      .accepted ∧
    (Runs.run (step ⟨1, by decide⟩) (init false [0x8001]) exampleActions).Agree := by
  refine ⟨by decide +kernel, agree_of_counted ⟨1, by decide⟩ false [0x8001] exampleActions
    ⟨?_, ?_, ⟨rfl, by decide⟩, ⟨rfl, by decide⟩, trivial, trivial, ?_,
      ⟨Option.isNone_iff_eq_none.mp (by decide +kernel), by decide +kernel⟩, trivial, trivial, trivial⟩
    (by decide +kernel)⟩
  · rw [Counted, if_neg (by decide)]
    exact ⟨rfl, by decide⟩
  · rw [Counted, if_neg (by decide)]
    exact ⟨rfl, by decide⟩
  · rw [Counted, if_pos (by decide +kernel)]
    decide +kernel

/-- A Subscribe is rejected, and the routing client is a subscriber of the placeholder event. -/
theorem not_agree_of_reject :
    (Runs.run (step ⟨1, by decide⟩) (init false []) [
      .subscribe 0 endpoint endpoint ⟨3, by decide⟩ () 0, .decide 1 false,
      .receive 0 0 (.subscribeNack 1)] : TwoLevels ℕ Unit).flight = [] ∧
    ¬ (Runs.run (step ⟨1, by decide⟩) (init false []) [
      .subscribe 0 endpoint endpoint ⟨3, by decide⟩ () 0, .decide 1 false,
      .receive 0 0 (.subscribeNack 1)] : TwoLevels ℕ Unit).Agree := by
  refine ⟨by decide, fun h => ?_⟩
  obtain ⟨e, he⟩ := (h.2 anyEvent (by decide)).mp (by decide)
  by_cases hendpoint : e = endpoint
  · subst hendpoint
    exact absurd he (by decide)
  · have hlast : LastEntry.after _ e (Function.update (fun _ => LastEntry.none) endpoint _ e) =
      LastEntry.accepted := he
    rw [Function.update_of_ne hendpoint] at hlast
    cases hlast

end TwoLevels

end Vsomeip
