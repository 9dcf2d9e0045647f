import Vsomeip.Lib.Runs
import Vsomeip.Routing.RemoteSubscription

set_option relaxedAutoImplicit false
set_option autoImplicit false

/-!
# The queue of pending subscriptions

The entries that `add_pending_subscription` adds are numbered in the order in which they arrive. Their
ids are 16-bit numbers that come back after 65535 entries, whether or not the entry that had the id
is still pending. As long as no entry is still pending when the 65535th entry behind it is added, the
map and the lists of an eventgroup fit, the lists are in the order of arrival, and each subscription
that is answered is acknowledged to service discovery once. `clear_pending_subscriptions` forgets the
entries that are out for an answer, so it breaks that unless nothing is pending.

## Main definitions

* `Vsomeip.Numbered` — an eventgroup with the numbers of its entries.
* `Vsomeip.Numbered.InTime` — no pending entry is as old as the ids.
* `Vsomeip.Tracked` — the same with the numbers of the entries that were sent to the hosting
  application and of those that were acknowledged.

## Main results

* `Vsomeip.Tracked.pendingQueue_of_inTime` — what holds in every state of runs that are in time.
* `Vsomeip.Numbered.not_fresh_of_wrap` — an id that is assigned while it is pending.
-/

namespace Vsomeip

/-- The id of the entry with a number. -/
def idOf : ℕ → UInt16
  | 0 => defaultSubscription
  | n + 1 => UInt16.ofNat (n % 65535 + 1)

/-- An eventgroup, the number of entries that were added, and the number of the last entry that got
an id. -/
structure Numbered (Address Ident : Type) where
  info : EventgroupInfo Address Ident
  added : ℕ
  number : UInt16 → ℕ

/-- An operation on the pending subscriptions. -/
inductive PendingOp (Address Ident : Type)
  | add (p : PendingSubscription Address Ident)
  | remove (id : UInt16)
  | clear

namespace Numbered

variable {Address Ident : Type} [DecidableEq Address]

/-- A new eventgroup. -/
def init (isMulticast : Bool) : Numbered Address Ident :=
  { info := .init isMulticast, added := 0, number := fun _ => 0 }

/-- After a step of the eventgroup. An entry was added exactly if the counter has moved. -/
def advance (s : Numbered Address Ident) (info : EventgroupInfo Address Ident) :
    Numbered Address Ident :=
  if info.subscriptionId = s.info.subscriptionId then { s with info }
  else
    { info
      added := s.added + 1
      number := Function.update s.number info.subscriptionId (s.added + 1) }

/-- One operation. -/
def step (s : Numbered Address Ident) : PendingOp Address Ident → Numbered Address Ident
  | .add p => s.advance (s.info.addPendingSubscription p).2
  | .remove id => s.advance (s.info.removePendingSubscription id).2
  | .clear => s.advance s.info.clearPendingSubscriptions

/-- An entry may be added: it is not the 65535th, or a later one, behind one that is still
pending. -/
def MayAdd (s : Numbered Address Ident) : Prop :=
  ∀ id, (s.info.pendingSubscriptions id).isSome → s.added + 1 < s.number id + 65535

/-- Entries are added only if they may be. -/
def InTime (s : Numbered Address Ident) : PendingOp Address Ident → Prop
  | .add _ => s.MayAdd
  | .remove _ => True
  | .clear => True

/-- The id is the first one of a list. -/
def IsHead (info : EventgroupInfo Address Ident) (id : UInt16) : Prop :=
  ∃ r ids, info.pendingSubscriptionsByRemote r = some (id :: ids)

/-- The map and the lists fit, and the lists are in the order of arrival. -/
structure InOrder (s : Numbered Address Ident) : Prop where
  consistent : s.info.Consistent
  order : ∀ {r ids}, s.info.pendingSubscriptionsByRemote r = some ids →
    (ids.map s.number).Pairwise (· < ·)

/-! ## The ids -/

section Ids

omit [DecidableEq Address]

/-- The id of the subscription with a number: the ids wrap after 65535. -/
lemma toNat_idOf_succ (n : ℕ) : (idOf (n + 1)).toNat = n % 65535 + 1 := by
  rw [idOf, UInt16.toNat_ofNat']
  omega

/-- The counter gives the entries their ids in turn. -/
lemma nextId_of_subscriptionId {info : EventgroupInfo Address Ident} {n : ℕ}
    (h : info.subscriptionId = idOf n) : info.nextId = idOf (n + 1) := by
  have hzero : defaultSubscription.toNat = 0 := rfl
  have hone : (1 : UInt16).toNat = 1 := rfl
  have hsub : info.subscriptionId.toNat = if n = 0 then 0 else (n - 1) % 65535 + 1 := by
    rw [h]
    cases n with
    | zero => rfl
    | succ n => rw [toNat_idOf_succ, if_neg (Nat.succ_ne_zero n), Nat.add_sub_cancel]
  apply UInt16.toNat_inj.mp
  rw [toNat_idOf_succ, EventgroupInfo.nextId]
  split
  · rename_i hwrap
    have hwrap := congrArg UInt16.toNat hwrap
    rw [UInt16.toNat_add, hone, hzero, hsub] at hwrap
    rw [UInt16.toNat_add, UInt16.toNat_add, hone, hsub]
    split at hwrap
    · omega
    · rename_i hn
      rw [if_neg hn]
      omega
  · rename_i hwrap
    have hwrap : (info.subscriptionId + 1).toNat ≠ 0 := fun heq =>
      hwrap (UInt16.toNat_inj.mp (heq.trans hzero.symm))
    rw [UInt16.toNat_add, hone, hsub] at hwrap
    rw [UInt16.toNat_add, hone, hsub]
    split at hwrap
    · rename_i hn
      rw [if_pos hn]
      omega
    · rename_i hn
      rw [if_neg hn]
      omega

/-- The next id differs from the last one. -/
lemma nextId_ne_subscriptionId (info : EventgroupInfo Address Ident) :
    info.nextId ≠ info.subscriptionId := by
  intro h
  have h := congrArg UInt16.toNat h
  have hone : (1 : UInt16).toNat = 1 := rfl
  have hlt := info.subscriptionId.toNat_lt
  rw [EventgroupInfo.nextId] at h
  split at h
  · rw [UInt16.toNat_add, UInt16.toNat_add, hone] at h
    omega
  · rw [UInt16.toNat_add, hone] at h
    omega

/-- Two entries that are less than 65535 apart have different ids. -/
lemma idOf_injOn {m n : ℕ} (hm : 1 ≤ m) (hmn : m < n) (hn : n < m + 65535) : idOf m ≠ idOf n := by
  intro h
  obtain ⟨m, rfl⟩ := Nat.exists_eq_add_of_le' hm
  obtain ⟨n, rfl⟩ := Nat.exists_eq_add_of_le' (Nat.le_trans hm (Nat.le_of_lt hmn))
  have h := congrArg UInt16.toNat h
  rw [toNat_idOf_succ, toNat_idOf_succ] at h
  omega

end Ids

/-! ## The invariant -/

/-- The number of an entry. -/
def numberOf (s : Numbered Address Ident) (q : PendingSubscription Address Ident) : ℕ :=
  s.number q.pendingSubscriptionId

/-- The map and the lists fit, the ids are those of the numbers, and the queues are in the order of
the numbers. -/
structure Inv (s : Numbered Address Ident) : Prop where
  consistent : s.info.Consistent
  counter : s.info.subscriptionId = idOf s.added
  numbered : ∀ {r q}, q ∈ s.info.queue r →
    1 ≤ s.numberOf q ∧ s.numberOf q ≤ s.added ∧ idOf (s.numberOf q) = q.pendingSubscriptionId
  order : ∀ r, ((s.info.queue r).map s.numberOf).Pairwise (· < ·)

section Inv

variable {s : Numbered Address Ident} {info : EventgroupInfo Address Ident}

omit [DecidableEq Address] in
/-- A pending id is that of an entry in a queue. -/
lemma exists_mem_queue (hs : s.info.Consistent) {id : UInt16}
    {p : PendingSubscription Address Ident} (hp : s.info.pendingSubscriptions id = some p) :
    p.withId id ∈ s.info.queue p.subscriber.remote :=
  hs.mem_queue_iff.mpr ⟨rfl, p, hp, rfl⟩

omit [DecidableEq Address] in
/-- The invariant gives the order. -/
lemma Inv.inOrder (hs : s.Inv) : s.InOrder where
  consistent := hs.consistent
  order := fun {r ids} hr => by
    have hmap := hs.consistent.map_queue_id r
    rw [hr, Option.getD_some] at hmap
    have horder := hs.order r
    rw [← hmap, List.map_map]
    exact horder

omit [DecidableEq Address] in
/-- **The next id is not pending** if an entry may be added: the pending entries are less than 65535
behind the next one. -/
lemma Inv.fresh (hs : s.Inv) (hadd : s.MayAdd) : s.info.pendingSubscriptions s.info.nextId = none := by
  cases hp : s.info.pendingSubscriptions s.info.nextId with
  | none => rfl
  | some p =>
    obtain ⟨hpos, hle, hid⟩ := hs.numbered (exists_mem_queue hs.consistent hp)
    have htime := hadd s.info.nextId (by rw [hp]; rfl)
    have hnext := nextId_of_subscriptionId hs.counter
    exact absurd (hid.trans hnext) (idOf_injOn hpos (Nat.lt_succ_of_le hle) htime)

omit [DecidableEq Address] in
/-- No two pending entries have the same number. -/
lemma Inv.eq_of_numberOf_eq (hs : s.Inv) {r r' : Address × UInt16}
    {q q' : PendingSubscription Address Ident} (hq : q ∈ s.info.queue r) (hq' : q' ∈ s.info.queue r')
    (h : s.numberOf q = s.numberOf q') : q = q' := by
  refine hs.consistent.eq_of_id_eq hq hq' ?_
  rw [← (hs.numbered hq).2.2, ← (hs.numbered hq').2.2, h]

omit [DecidableEq Address] in
/-- The numbers after a step that has added an entry. -/
lemma advance_of_add (hinfo : info.subscriptionId = s.info.nextId) :
    s.advance info =
      { info, added := s.added + 1, number := Function.update s.number s.info.nextId (s.added + 1) } := by
  rw [advance, if_neg (hinfo ▸ nextId_ne_subscriptionId s.info), hinfo]

omit [DecidableEq Address] in
/-- The numbers after any other step. -/
lemma advance_of_eq (hinfo : info.subscriptionId = s.info.subscriptionId) :
    s.advance info = { s with info } := by
  rw [advance, if_pos hinfo]

omit [DecidableEq Address] in
/-- The new entry has the next number, and the others keep theirs. -/
lemma numberOf_advance (hs : s.Inv) (hfresh : s.info.pendingSubscriptions s.info.nextId = none)
    (hinfo : info.subscriptionId = s.info.nextId) :
    (∀ p : PendingSubscription Address Ident,
      (s.advance info).numberOf (p.withId s.info.nextId) = s.added + 1) ∧
    ∀ {r q}, q ∈ s.info.queue r → (s.advance info).numberOf q = s.numberOf q := by
  rw [advance_of_add hinfo]
  refine ⟨fun p => Function.update_self .., fun {r q} hq => Function.update_of_ne ?_ _ _⟩
  intro hid
  obtain ⟨-, p, hp, -⟩ := hs.consistent.mem_queue_iff.mp hq
  rw [hid, hfresh] at hp
  cases hp

/-- A step that puts an entry at the end of its queue keeps the invariant. -/
lemma Inv.of_add (hs : s.Inv) (hfresh : s.info.pendingSubscriptions s.info.nextId = none)
    (hinfo : info.subscriptionId = s.info.nextId) (hcons : info.Consistent)
    {p : PendingSubscription Address Ident}
    (hqueue : info.queue = Function.update s.info.queue p.subscriber.remote
      (s.info.queue p.subscriber.remote ++ [p.withId s.info.nextId])) :
    (s.advance info).Inv := by
  obtain ⟨hnew, hold⟩ := numberOf_advance hs hfresh hinfo
  have hstep := advance_of_add hinfo
  have hinfo' : (s.advance info).info = info := by rw [hstep]
  have hadded : (s.advance info).added = s.added + 1 := by rw [hstep]
  refine ⟨by rw [hinfo']; exact hcons, ?_, fun {r q} hq => ?_, fun r => ?_⟩
  · rw [hinfo', hadded, hinfo]
    exact nextId_of_subscriptionId hs.counter
  · rw [hinfo'] at hq
    obtain hq | ⟨-, rfl⟩ := (EventgroupInfo.mem_queue_of_append hqueue).mp hq
    · obtain ⟨hpos, hle, hid⟩ := hs.numbered hq
      rw [hold hq, hadded]
      exact ⟨hpos, Nat.le_succ_of_le hle, hid⟩
    · rw [hnew, hadded]
      exact ⟨Nat.succ_pos _, Nat.le_refl _, (nextId_of_subscriptionId hs.counter).symm⟩
  · have hmap (r : Address × UInt16) : (s.info.queue r).map (s.advance info).numberOf =
        (s.info.queue r).map s.numberOf := List.map_congr_left fun q hq => hold hq
    rw [hinfo', hqueue]
    by_cases hr : r = p.subscriber.remote
    · subst hr
      rw [Function.update_self, List.map_append, hmap, List.map_singleton, hnew,
        List.pairwise_append]
      refine ⟨hs.order _, List.pairwise_singleton _ _, fun m hm n hn => ?_⟩
      obtain ⟨q, hq, rfl⟩ := List.mem_map.mp hm
      rw [List.mem_singleton.mp hn]
      exact Nat.lt_succ_of_le (hs.numbered hq).2.1
    · rw [Function.update_of_ne hr, hmap]
      exact hs.order r

omit [DecidableEq Address] in
/-- A step that only takes entries out of the queues keeps the invariant. -/
lemma Inv.of_sublist (hs : s.Inv) (hinfo : info.subscriptionId = s.info.subscriptionId)
    (hcons : info.Consistent) (hqueue : ∀ r, (info.queue r).Sublist (s.info.queue r)) :
    (s.advance info).Inv := by
  rw [advance_of_eq hinfo]
  exact ⟨hcons, hinfo.trans hs.counter, fun hq => hs.numbered ((hqueue _).subset hq),
    fun r => (hs.order r).sublist ((hqueue r).map _)⟩

omit [DecidableEq Address] in
/-- The invariant holds at the start. -/
lemma inv_init (isMulticast : Bool) : (init isMulticast : Numbered Address Ident).Inv where
  consistent := EventgroupInfo.consistent_init isMulticast
  counter := rfl
  numbered := fun hq => by cases hq
  order := fun _ => List.Pairwise.nil

omit [DecidableEq Address] in
/-- The first id of a list is that of the first entry of a queue. -/
lemma isHead_iff (hs : info.Consistent) {id : UInt16} :
    IsHead info id ↔ ∃ r q rest, info.queue r = q :: rest ∧ q.pendingSubscriptionId = id := by
  constructor
  · rintro ⟨r, ids, hr⟩
    have hmap := hs.map_queue_id r
    rw [hr, Option.getD_some] at hmap
    cases hq : info.queue r with
    | nil => rw [hq] at hmap; cases hmap
    | cons q rest =>
      rw [hq, List.map_cons] at hmap
      exact ⟨r, q, rest, hq, (List.cons.inj hmap).1⟩
  · rintro ⟨r, q, rest, hq, rfl⟩
    have hmap := hs.map_queue_id r
    rw [hq, List.map_cons] at hmap
    cases hr : info.pendingSubscriptionsByRemote r with
    | none => rw [hr] at hmap; cases hmap
    | some ids =>
      rw [hr, Option.getD_some] at hmap
      exact ⟨r, _, hr.trans (congrArg some hmap.symm)⟩

/-- **Removing an id** takes entries out of one queue, or changes nothing. -/
lemma queue_remove_sublist (hs : info.Consistent) (id : UInt16) :
    (info.removePendingSubscription id).2.Consistent ∧
      ∀ r, ((info.removePendingSubscription id).2.queue r).Sublist (info.queue r) := by
  by_cases hhead : IsHead info id
  · obtain ⟨r, q, rest, hq, rfl⟩ := (isHead_iff hs).mp hhead
    obtain ⟨-, hcons, hqueue⟩ := hs.removePendingSubscription_of_queue hq
    refine ⟨hcons, fun r' => ?_⟩
    rw [hqueue]
    by_cases hr : r' = r
    · subst hr
      rw [Function.update_self, hq]
      exact (List.dropWhile_sublist _).cons q
    · rw [Function.update_of_ne hr]
  · rw [hs.removePendingSubscription_of_not_head fun r q rest hq hid =>
      hhead ((isHead_iff hs).mpr ⟨r, q, rest, hq, hid⟩)]
    exact ⟨hs, fun r => List.Sublist.refl _⟩

/-- The operations keep the invariant as long as entries are added in time. -/
lemma Inv.step (hs : s.Inv) {op : PendingOp Address Ident} (htime : s.InTime op) :
    (s.step op).Inv := by
  cases op with
  | add p =>
    have hfresh := hs.fresh htime
    obtain ⟨hcons, hqueue⟩ := hs.consistent.addPendingSubscription p hfresh
    refine hs.of_add hfresh ?_ hcons hqueue
    rw [EventgroupInfo.addPendingSubscription_snd]
  | remove id =>
    obtain ⟨hcons, hqueue⟩ := queue_remove_sublist hs.consistent id
    exact hs.of_sublist (EventgroupInfo.removePendingSubscription_frame s.info id).2 hcons hqueue
  | clear =>
    exact hs.of_sublist rfl (EventgroupInfo.consistent_clearPendingSubscriptions s.info)
      fun r => List.nil_sublist _

end Inv

end Numbered

/-! ## Answers and acknowledgements -/

/-- The id with which an entry is sent to the hosting application. -/
def RemoteOutput.sentId {Address Ident : Type} : RemoteOutput Address Ident → Option UInt16
  | .sendSubscription _ _ id => some id
  | .sendUnsubscription _ _ id => some id
  | .acknowledge .. => none
  | .callback .. => none

/-- The id of an entry that is acknowledged to service discovery. -/
def RemoteOutput.acknowledgedId {Address Ident : Type} : RemoteOutput Address Ident → Option UInt16
  | .acknowledge _ _ entry => some entry.pendingSubscriptionId
  | .sendSubscription .. => none
  | .sendUnsubscription .. => none
  | .callback .. => none

/-- A numbered eventgroup with the numbers of the subscriptions that were added, of the entries that
were acknowledged to service discovery, and of those that were sent to the hosting application. -/
structure Tracked (Address Ident : Type) extends Numbered Address Ident where
  subscribes : List ℕ
  acknowledged : List ℕ
  sent : List ℕ

/-- What happens to the remote subscriptions of an eventgroup, with the client that offers the
service and the time. -/
inductive TrackedAction (Address Ident : Type)
  | event (offeringClient : UInt16) (now : ℕ) (event : RemoteEvent Address Ident)
  | clear

namespace Tracked

variable {Address Ident : Type} [DecidableEq Address]

/-- A new eventgroup. -/
def init (isMulticast : Bool) : Tracked Address Ident :=
  { Numbered.init isMulticast with subscribes := [], acknowledged := [], sent := [] }

/-- The numbers of the subscriptions that an event has added. -/
def newSubscribes (s : Numbered Address Ident) (added : ℕ) : RemoteEvent Address Ident → List ℕ
  | .subscribe .. => if added = s.added then [] else [added]
  | _ => []

/-- One step. -/
def step (s : Tracked Address Ident) : TrackedAction Address Ident → Tracked Address Ident
  | .event offeringClient now event =>
    let (info, calls) := s.info.handle offeringClient now event
    let numbered := s.toNumbered.advance info
    { numbered with
      subscribes := s.subscribes ++ newSubscribes s.toNumbered numbered.added event
      acknowledged := s.acknowledged ++ (calls.filterMap (·.acknowledgedId)).map numbered.number
      sent := s.sent ++ (calls.filterMap (·.sentId)).map numbered.number }
  | .clear => { s with info := s.info.clearPendingSubscriptions }

/-- The entry with a number is pending for a remote. -/
def PendingFor (s : Tracked Address Ident) (r : Address × UInt16) (n : ℕ) : Prop :=
  ∃ id p, s.info.pendingSubscriptions id = some p ∧ p.subscriber.remote = r ∧ s.number id = n

/-- Entries are added in time, an answer with the first id of a list is of the kind of its entry, and
the entries are cleared only if there are none. -/
def Proper (s : Tracked Address Ident) : TrackedAction Address Ident → Prop
  | .event _ _ (.subscribe subscriber ..) => subscriber ∉ s.info.endpoints → s.MayAdd
  | .event _ _ (.stopSubscribe ..) => s.MayAdd
  | .event _ _ (.subscribeAck _ id) => Numbered.IsHead s.info id →
      ∀ p, s.info.pendingSubscriptions id = some p → p.isSubscribe = true
  | .event _ _ (.subscribeNack _ id) => Numbered.IsHead s.info id →
      ∀ p, s.info.pendingSubscriptions id = some p → p.isSubscribe = true
  | .event _ _ (.unsubscribeAck id) => Numbered.IsHead s.info id →
      ∀ p, s.info.pendingSubscriptions id = some p → p.isSubscribe = false
  | .clear => ∀ id, s.info.pendingSubscriptions id = none

/-- Each subscription is acknowledged once, when it is no longer pending, and for each remote with
pending entries exactly one of them has been sent and is out for an answer. -/
structure Accounted (s : Tracked Address Ident) : Prop where
  once : s.acknowledged.Nodup
  subscribe : ∀ n ∈ s.acknowledged, n ∈ s.subscribes
  answered : ∀ n ∈ s.subscribes, (n ∈ s.acknowledged ↔ ∀ r, ¬ s.PendingFor r n)
  sentOnce : s.sent.Nodup
  out : ∀ {r m n}, m ∈ s.sent → n ∈ s.sent → s.PendingFor r m → s.PendingFor r n → m = n
  sent : ∀ {r m}, s.PendingFor r m → ∃ n ∈ s.sent, s.PendingFor r n

/-- The invariant of the numbers: the first entry of a queue was sent and the others were not, and a
subscription is acknowledged if and only if it is in no queue. -/
structure Inv (s : Tracked Address Ident) : Prop where
  numbered : s.toNumbered.Inv
  idents : ∀ {r q}, q ∈ s.info.queue r → q.isSubscribe → q.sdMessageIdentifier.isSome
  kinds : ∀ {r q}, q ∈ s.info.queue r → (s.numberOf q ∈ s.subscribes ↔ q.isSubscribe = true)
  bound : (∀ n ∈ s.subscribes, n ≤ s.added) ∧ ∀ n ∈ s.sent, n ≤ s.added
  once : s.acknowledged.Nodup
  subscribe : ∀ n ∈ s.acknowledged, n ∈ s.subscribes
  answered : ∀ n ∈ s.subscribes,
    (n ∈ s.acknowledged ↔ ∀ r, ∀ q ∈ s.info.queue r, s.numberOf q ≠ n)
  sentOnce : s.sent.Nodup
  heads : ∀ {r q rest}, s.info.queue r = q :: rest →
    s.numberOf q ∈ s.sent ∧ ∀ p ∈ rest, s.numberOf p ∉ s.sent

section Inv

variable {s : Tracked Address Ident} {info : EventgroupInfo Address Ident} {r : Address × UInt16}

omit [DecidableEq Address] in
/-- A number is pending for a remote if its queue has it. -/
lemma pendingFor_iff (hs : s.info.Consistent) {n : ℕ} :
    s.PendingFor r n ↔ ∃ q ∈ s.info.queue r, s.numberOf q = n := by
  constructor
  · rintro ⟨id, p, hp, rfl, hn⟩
    exact ⟨p.withId id, Numbered.exists_mem_queue hs hp, hn⟩
  · rintro ⟨q, hq, hn⟩
    obtain ⟨hremote, p, hp, hpq⟩ := hs.mem_queue_iff.mp hq
    exact ⟨q.pendingSubscriptionId, p, hp, by rw [← hremote, ← hpq]; rfl, hn⟩

omit [DecidableEq Address] in
/-- The invariant gives the account. -/
lemma Inv.accounted (hs : s.Inv) : s.Accounted where
  once := hs.once
  subscribe := hs.subscribe
  answered := fun n hn => by
    rw [hs.answered n hn]
    refine forall_congr' fun r => ?_
    rw [pendingFor_iff hs.numbered.consistent]
    simp only [not_exists, not_and, ne_eq]
  sentOnce := hs.sentOnce
  out := fun {r m n} hm hn hpm hpn => by
    obtain ⟨p, hp, rfl⟩ := (pendingFor_iff hs.numbered.consistent).mp hpm
    obtain ⟨p', hp', rfl⟩ := (pendingFor_iff hs.numbered.consistent).mp hpn
    cases hq : s.info.queue r with
    | nil => rw [hq] at hp; cases hp
    | cons q rest =>
      have hunsent := (hs.heads hq).2
      rw [hq] at hp hp'
      rw [(List.mem_cons.mp hp).resolve_right fun h => hunsent p h hm,
        (List.mem_cons.mp hp').resolve_right fun h => hunsent p' h hn]
  sent := fun {r m} hpm => by
    obtain ⟨p, hp, rfl⟩ := (pendingFor_iff hs.numbered.consistent).mp hpm
    cases hq : s.info.queue r with
    | nil => rw [hq] at hp; cases hp
    | cons q rest =>
      refine ⟨s.numberOf q, (hs.heads hq).1, (pendingFor_iff hs.numbered.consistent).mpr ?_⟩
      exact ⟨q, hq ▸ List.mem_cons_self, rfl⟩

omit [DecidableEq Address] in
/-- The invariant with the numbers holds at the start. -/
lemma inv_init (isMulticast : Bool) : (init isMulticast : Tracked Address Ident).Inv where
  numbered := Numbered.inv_init isMulticast
  idents := fun hq => by cases hq
  kinds := fun hq => by cases hq
  bound := ⟨fun n hn => (by cases hn), fun n hn => (by cases hn)⟩
  once := List.nodup_nil
  subscribe := fun n hn => by cases hn
  answered := fun n hn => by cases hn
  sentOnce := List.nodup_nil
  heads := fun hq => by cases hq

/-- An entry with the next number is put at the end of its queue, and is sent if it is alone there. -/
structure Adds (s s' : Tracked Address Ident) (p : PendingSubscription Address Ident) : Prop where
  queue : s'.info.queue = Function.update s.info.queue p.subscriber.remote
    (s.info.queue p.subscriber.remote ++ [p.withId s.info.nextId])
  new : s'.numberOf (p.withId s.info.nextId) = s.added + 1
  old : ∀ {r q}, q ∈ s.info.queue r → s'.numberOf q = s.numberOf q
  subscribes : s'.subscribes = s.subscribes ++ if p.isSubscribe then [s.added + 1] else []
  acknowledged : s'.acknowledged = s.acknowledged
  sent : s'.sent = s.sent ++ if s.info.queue p.subscriber.remote = [] then [s.added + 1] else []

namespace Adds

variable {s' : Tracked Address Ident} {p q : PendingSubscription Address Ident}
  {rest : List (PendingSubscription Address Ident)}

/-- The Subscribes after one more call. -/
lemma mem_subscribes_iff (h : s.Adds s' p) {n : ℕ} :
    n ∈ s'.subscribes ↔ n ∈ s.subscribes ∨ p.isSubscribe = true ∧ n = s.added + 1 := by
  rw [h.subscribes, List.mem_append]
  split
  · rename_i hp
    rw [List.mem_singleton, and_iff_right hp]
  · rename_i hp
    simp [hp]

/-- What was sent for an answer after one more call: the new one if the queue was empty. -/
lemma mem_sent_iff (h : s.Adds s' p) {n : ℕ} : n ∈ s'.sent ↔
    n ∈ s.sent ∨ s.info.queue p.subscriber.remote = [] ∧ n = s.added + 1 := by
  rw [h.sent, List.mem_append]
  split
  · rename_i hnil
    rw [List.mem_singleton, and_iff_right hnil]
  · rename_i hnil
    simp [hnil]

/-- The queues after one more call. -/
lemma mem_queue_iff (h : s.Adds s' p) : q ∈ s'.info.queue r ↔
    q ∈ s.info.queue r ∨ r = p.subscriber.remote ∧ q = p.withId s.info.nextId :=
  EventgroupInfo.mem_queue_of_append h.queue

/-- The numbers of the entries that were pending come before the new one. -/
lemma numberOf_ne (h : s.Adds s' p) (hs : s.Inv) (hq : q ∈ s.info.queue r) :
    s'.numberOf q ≠ s.added + 1 := by
  rw [h.old hq]
  exact Nat.ne_of_lt (Nat.lt_succ_of_le (hs.numbered.numbered hq).2.1)

/-- The entries of the queues are still known by their numbers. -/
lemma kinds (h : s.Adds s' p) (hs : s.Inv) (hq : q ∈ s'.info.queue r) :
    s'.numberOf q ∈ s'.subscribes ↔ q.isSubscribe = true := by
  rw [h.mem_subscribes_iff]
  obtain hq | ⟨-, rfl⟩ := h.mem_queue_iff.mp hq
  · rw [or_iff_left fun hand => h.numberOf_ne hs hq hand.2, h.old hq]
    exact hs.kinds hq
  · rw [h.new, or_iff_right fun hn => absurd (hs.bound.1 _ hn) (Nat.not_succ_le_self _),
      and_iff_left rfl, PendingSubscription.isSubscribe_withId]

/-- A Subscribe is still acknowledged exactly if it is in no queue. -/
lemma answered (h : s.Adds s' p) (hs : s.Inv) {n : ℕ} (hn : n ∈ s'.subscribes) :
    n ∈ s'.acknowledged ↔ ∀ r, ∀ q ∈ s'.info.queue r, s'.numberOf q ≠ n := by
  rw [h.acknowledged]
  by_cases hold : n ∈ s.subscribes
  · rw [hs.answered n hold]
    constructor
    · intro hall r q hq
      obtain hq | ⟨-, rfl⟩ := h.mem_queue_iff.mp hq
      · rw [h.old hq]
        exact hall r q hq
      · rw [h.new]
        exact Nat.ne_of_gt (Nat.lt_succ_of_le (hs.bound.1 n hold))
    · intro hall r q hq
      rw [← h.old hq]
      exact hall r q (h.mem_queue_iff.mpr (.inl hq))
  · -- the new entry is pending
    obtain ⟨-, rfl⟩ := (h.mem_subscribes_iff.mp hn).resolve_left hold
    refine iff_of_false (fun hmem => hold (hs.subscribe _ hmem)) fun hall => ?_
    exact hall _ _ (h.mem_queue_iff.mpr (.inr ⟨rfl, rfl⟩)) h.new

/-- The heads of the queues are sent, and nothing behind them. -/
lemma heads (h : s.Adds s' p) (hs : s.Inv) (hq : s'.info.queue r = q :: rest) :
    s'.numberOf q ∈ s'.sent ∧ ∀ p' ∈ rest, s'.numberOf p' ∉ s'.sent := by
  cases hold : s.info.queue r with
  | nil =>
    obtain ⟨rfl, hnew⟩ := EventgroupInfo.queue_eq_singleton_of_append h.queue hold
      (by rw [hq]; exact List.cons_ne_nil q rest)
    obtain ⟨rfl, rfl⟩ := List.cons.inj (hq.symm.trans hnew)
    exact ⟨h.mem_sent_iff.mpr (.inr ⟨hold, h.new⟩), fun p' hp' => by cases hp'⟩
  | cons q₀ rest₀ =>
    obtain ⟨rest', hnew, hrest'⟩ := EventgroupInfo.queue_cons_of_append h.queue hold
    obtain ⟨rfl, rfl⟩ := List.cons.inj (hnew.symm.trans hq)
    obtain ⟨hhead, hunsent⟩ := hs.heads hold
    have hmem {q' : PendingSubscription Address Ident} (hq' : q' ∈ q₀ :: rest₀) :
        q' ∈ s.info.queue r := hold ▸ hq'
    refine ⟨?_, fun p' hp' => ?_⟩
    · rw [h.mem_sent_iff, h.old (hmem List.mem_cons_self)]
      exact .inl hhead
    · rw [h.mem_sent_iff, not_or]
      obtain hp' | rfl := hrest' p' hp'
      · have hp := hmem (List.mem_cons_of_mem q₀ hp')
        exact ⟨h.old hp ▸ hunsent p' hp', fun hand => h.numberOf_ne hs hp hand.2⟩
      · refine ⟨fun hn => ?_, fun ⟨hnil, _⟩ => ?_⟩
        · rw [h.new] at hn
          exact Nat.not_succ_le_self _ (hs.bound.2 _ hn)
        · -- the new entry would be the first one
          have hin : p.withId s.info.nextId ∈ s'.info.queue r := hq ▸ List.mem_cons_of_mem q₀ hp'
          obtain hin | ⟨rfl, -⟩ := h.mem_queue_iff.mp hin
          · exact h.numberOf_ne hs hin h.new
          · rw [hold] at hnil
            cases hnil

end Adds

/-- **A step that puts an entry at the end of its queue** and sends it if it is alone there. -/
lemma Inv.of_add (hs : s.Inv) (hfresh : s.info.pendingSubscriptions s.info.nextId = none)
    (hinfo : info.subscriptionId = s.info.nextId) (hcons : info.Consistent)
    {p : PendingSubscription Address Ident}
    (hident : p.isSubscribe → p.sdMessageIdentifier.isSome)
    (hqueue : info.queue = Function.update s.info.queue p.subscriber.remote
      (s.info.queue p.subscriber.remote ++ [p.withId s.info.nextId])) :
    ({ s.toNumbered.advance info with
        subscribes := s.subscribes ++ if p.isSubscribe then [s.added + 1] else []
        acknowledged := s.acknowledged
        sent := s.sent ++ if s.info.queue p.subscriber.remote = [] then [s.added + 1] else [] } :
      Tracked Address Ident).Inv := by
  set s' : Tracked Address Ident :=
    { s.toNumbered.advance info with
      subscribes := s.subscribes ++ if p.isSubscribe then [s.added + 1] else []
      acknowledged := s.acknowledged
      sent := s.sent ++ if s.info.queue p.subscriber.remote = [] then [s.added + 1] else [] } with hs'
  obtain ⟨hnew, hold⟩ := Numbered.numberOf_advance hs.numbered hfresh hinfo
  have hstep := Numbered.advance_of_add (s := s.toNumbered) hinfo
  have hinfo' : s'.info = info := by rw [hs', hstep]
  have hadded : s'.added = s.added + 1 := by rw [hs', hstep]
  have h : s.Adds s' p := ⟨hinfo' ▸ hqueue, hnew p, hold, rfl, rfl, rfl⟩
  obtain ⟨hsubs, hsent⟩ := hs.bound
  refine
    { numbered := hs.numbered.of_add hfresh hinfo hcons hqueue
      idents := fun {r q} hq => ?_
      kinds := fun hq => h.kinds hs hq
      bound := ⟨fun n hn => ?_, fun n hn => ?_⟩
      once := hs.once
      subscribe := fun n hn => List.mem_append_left _ (hs.subscribe n hn)
      answered := fun n hn => h.answered hs hn
      sentOnce := ?_
      heads := fun hq => h.heads hs hq }
  · obtain hq | ⟨-, rfl⟩ := h.mem_queue_iff.mp hq
    · exact hs.idents hq
    · exact hident
  · rw [hadded]
    obtain hn | ⟨-, rfl⟩ := h.mem_subscribes_iff.mp hn
    · exact Nat.le_succ_of_le (hsubs n hn)
    · exact Nat.le_refl _
  · rw [hadded]
    obtain hn | ⟨-, rfl⟩ := h.mem_sent_iff.mp hn
    · exact Nat.le_succ_of_le (hsent n hn)
    · exact Nat.le_refl _
  · refine hs.sentOnce.append ?_ fun n hn hn' => ?_
    · split
      · exact List.nodup_singleton _
      · exact List.nodup_nil
    · split at hn'
      · rw [List.mem_singleton.mp hn'] at hn
        exact Nat.not_succ_le_self _ (hsent _ hn)
      · cases hn'

open EventgroupInfo

section Release

variable {q p : PendingSubscription Address Ident} {rest : List (PendingSubscription Address Ident)}

omit [DecidableEq Address] in
/-- What is sent when a queue moves on is the number of one of its further entries. -/
lemma mem_of_mem_head_left {n : ℕ} (hn : n ∈ (left q rest).head?.toList.map s.numberOf) :
    ∃ p ∈ rest, s.numberOf p = n := by
  obtain ⟨p, hp, hpn⟩ := List.mem_map.mp hn
  rw [Option.mem_toList] at hp
  exact ⟨p, left_suffix.sublist.subset (List.mem_of_mem_head? hp), hpn⟩

/-- An entry that is taken is in no queue any more. -/
lemma Inv.numberOf_ne_of_taken (hs : s.Inv) (hq : s.info.queue r = q :: rest)
    (hqueue : info.queue = Function.update s.info.queue r (left q rest)) (hp : p ∈ taken q rest)
    {r' : Address × UInt16} {q' : PendingSubscription Address Ident} (hq' : q' ∈ info.queue r') :
    s.numberOf q' ≠ s.numberOf p := by
  intro heq
  have hold : q' ∈ s.info.queue r' := (queue_suffix_of_left hqueue hq r').sublist.subset hq'
  have htaken : p ∈ s.info.queue r := hq ▸ taken_sublist.subset hp
  obtain rfl := hs.numbered.eq_of_numberOf_eq hold htaken heq
  obtain rfl := (hs.numbered.consistent.remote_of_mem hold).symm.trans
    (hs.numbered.consistent.remote_of_mem htaken)
  rw [hqueue, Function.update_self] at hq'
  exact hs.numbered.consistent.notMem_left hq hp hq'

/-- A pending subscription that is not taken stays in its queue. -/
lemma Inv.mem_queue_of_not_taken (hs : s.Inv) (hq : s.info.queue r = q :: rest)
    (hqueue : info.queue = Function.update s.info.queue r (left q rest)) {r' : Address × UInt16}
    (hp : p ∈ s.info.queue r') (hn : s.numberOf p ∈ s.subscribes)
    (hnot : s.numberOf p ∉ (taken q rest).map s.numberOf) : p ∈ info.queue r' := by
  rw [hqueue]
  by_cases hr : r' = r
  · subst hr
    rw [Function.update_self]
    cases hkind : q.isSubscribe with
    | true =>
      exact (mem_taken_or_left hkind (hq ▸ hp)).resolve_left fun h => hnot (List.mem_map_of_mem h)
    | false =>
      refine (not_isSubscribe_or_mem_left hkind (hq ▸ hp)).resolve_left fun h => ?_
      rw [(hs.kinds hp).mp hn] at h
      cases h
  · rwa [Function.update_of_ne hr]

/-- Behind a step that answers the first entry of a queue, the first entries of all queues are sent,
and the others are not. -/
lemma Inv.heads_of_release (hs : s.Inv) (hq : s.info.queue r = q :: rest)
    (hqueue : info.queue = Function.update s.info.queue r (left q rest)) {r' : Address × UInt16}
    {q' : PendingSubscription Address Ident} {rest' : List (PendingSubscription Address Ident)}
    (hq' : info.queue r' = q' :: rest') :
    s.numberOf q' ∈ s.sent ++ (left q rest).head?.toList.map s.numberOf ∧
      ∀ p' ∈ rest', s.numberOf p' ∉ s.sent ++ (left q rest).head?.toList.map s.numberOf := by
  have hleft : (left q rest).Sublist rest := left_suffix.sublist
  rw [hqueue] at hq'
  by_cases hr : r' = r
  · subst hr
    rw [Function.update_self] at hq'
    rw [hq']
    refine ⟨List.mem_append_right _ List.mem_cons_self, fun p' hp' hn => ?_⟩
    rcases List.mem_append.mp hn with hn | hn
    · exact (hs.heads hq).2 p' (hleft.subset (hq' ▸ List.mem_cons_of_mem q' hp')) hn
    · have horder := hs.numbered.order r'
      rw [hq] at horder
      have horder' := horder.sublist ((hleft.cons q).map s.numberOf)
      rw [hq', List.map_cons, List.pairwise_cons] at horder'
      have hlt := horder'.1 _ (List.mem_map_of_mem hp')
      rw [List.mem_singleton.mp hn] at hlt
      exact Nat.lt_irrefl _ hlt
  · rw [Function.update_of_ne hr] at hq'
    obtain ⟨hsent, hrest⟩ := hs.heads hq'
    refine ⟨List.mem_append_left _ hsent, fun p' hp' hn => ?_⟩
    rcases List.mem_append.mp hn with hn | hn
    · exact hrest p' hp' hn
    · obtain ⟨p, hp, heq⟩ := mem_of_mem_head_left hn
      have hp' : p' ∈ s.info.queue r' := hq' ▸ List.mem_cons_of_mem q' hp'
      have hp : p ∈ s.info.queue r := hq ▸ List.mem_cons_of_mem q hp
      obtain rfl := hs.numbered.eq_of_numberOf_eq hp hp' heq
      exact hs.numbered.consistent.id_ne_of_remote_ne hp hp' hr rfl

/-- **A step that answers the first entry of a queue.** The subscriptions that are taken with it are
acknowledged, and the next entry is sent. -/
lemma Inv.of_release (hs : s.Inv) (hq : s.info.queue r = q :: rest)
    (hinfo : info.subscriptionId = s.info.subscriptionId) (hcons : info.Consistent)
    (hqueue : info.queue = Function.update s.info.queue r (left q rest)) :
    ({ s with
        info := info
        acknowledged := s.acknowledged ++ (taken q rest).map s.numberOf
        sent := s.sent ++ (left q rest).head?.toList.map s.numberOf } : Tracked Address Ident).Inv := by
  have hsub (r' : Address × UInt16) : (info.queue r').Sublist (s.info.queue r') :=
    (queue_suffix_of_left hqueue hq r').sublist
  have hnumbered := hs.numbered.of_sublist hinfo hcons hsub
  rw [Numbered.advance_of_eq hinfo] at hnumbered
  have htaken {p : PendingSubscription Address Ident} (hp : p ∈ taken q rest) :
      p ∈ s.info.queue r := hq ▸ taken_sublist.subset hp
  refine
    { numbered := hnumbered
      idents := fun hq' => hs.idents ((hsub _).subset hq')
      kinds := fun hq' => hs.kinds ((hsub _).subset hq')
      bound := ⟨hs.bound.1, fun n hn => ?_⟩
      once := ?_
      subscribe := fun n hn => ?_
      answered := fun n hn => ?_
      sentOnce := ?_
      heads := fun {r' q' rest'} hq' => hs.heads_of_release hq hqueue hq' }
  · rcases List.mem_append.mp hn with hn | hn
    · exact hs.bound.2 n hn
    · obtain ⟨p, hp, rfl⟩ := mem_of_mem_head_left hn
      exact (hs.numbered.numbered (hq ▸ List.mem_cons_of_mem q hp)).2.1
  · -- a taken subscription was pending, so it was not acknowledged before
    refine hs.once.append ?_ fun n hn hn' => ?_
    · have horder := hs.numbered.order r
      rw [hq] at horder
      exact (horder.sublist (taken_sublist.map _)).imp Nat.ne_of_lt
    · obtain ⟨p, hp, rfl⟩ := List.mem_map.mp hn'
      exact (hs.answered _ ((hs.kinds (htaken hp)).mpr (mem_taken hp).2)).mp hn r p (htaken hp) rfl
  · rcases List.mem_append.mp hn with hn | hn
    · exact hs.subscribe n hn
    · obtain ⟨p, hp, rfl⟩ := List.mem_map.mp hn
      exact (hs.kinds (htaken hp)).mpr (mem_taken hp).2
  · change n ∈ _ ++ _ ↔ ∀ r', ∀ q' ∈ info.queue r', s.numberOf q' ≠ n
    constructor
    · intro hn' r' q' hq'
      rcases List.mem_append.mp hn' with hn' | hn'
      · exact (hs.answered n hn).mp hn' r' q' ((hsub r').subset hq')
      · obtain ⟨p, hp, rfl⟩ := List.mem_map.mp hn'
        exact hs.numberOf_ne_of_taken hq hqueue hp hq'
    · intro hall
      by_contra hn'
      rw [List.mem_append, not_or] at hn'
      have hpending := mt (hs.answered n hn).mpr hn'.1
      push Not at hpending
      obtain ⟨r', p, hp, rfl⟩ := hpending
      exact hall r' p (hs.mem_queue_of_not_taken hq hqueue hp hn hn'.2) rfl
  · refine hs.sentOnce.append ?_ fun n hn hn' => ?_
    · cases (left q rest).head? with
      | none => exact List.nodup_nil
      | some p => exact List.nodup_singleton _
    · obtain ⟨p, hp, rfl⟩ := mem_of_mem_head_left hn'
      exact (hs.heads hq).2 p hp hn

omit [DecidableEq Address] in
/-- The calls for the entries that are released with a subscription. -/
lemma calls_of_subscribe (offeringClient client : UInt16) (accepted : Bool) (hq : q.isSubscribe = true) :
    (((released q rest).map
        (answerOf offeringClient client accepted)).filterMap (·.acknowledgedId) =
      (taken q rest).map (·.pendingSubscriptionId)) ∧
    ((released q rest).map
        (answerOf offeringClient client accepted)).filterMap (·.sentId) =
      (left q rest).head?.toList.map (·.pendingSubscriptionId) := by
  have htaken : (taken q rest).map (answerOf offeringClient client accepted) =
      (taken q rest).map (RemoteOutput.acknowledge client accepted) :=
    List.map_congr_left fun p hp => by rw [answerOf, if_pos (mem_taken hp).2]
  have hleft : (left q rest).head?.toList.map
        (answerOf offeringClient client accepted) =
      (left q rest).head?.toList.map fun p => RemoteOutput.sendUnsubscription offeringClient
        p.subscribingClient p.pendingSubscriptionId :=
    List.map_congr_left fun p hp => by
      have hp := head_left (Option.mem_toList.mp hp)
      rw [hq] at hp
      rw [answerOf, if_neg (by simp [hp])]
  rw [released, List.map_append, htaken, hleft]
  constructor
  · simp [List.filterMap_append, List.filterMap_map, RemoteOutput.acknowledgedId]
  · simp [List.filterMap_append, List.filterMap_map, RemoteOutput.sentId]

omit [DecidableEq Address] in
/-- The calls for the entry that is released with an unsubscription. -/
lemma calls_of_unsubscribe (offeringClient : UInt16) (hq : q.isSubscribe = false) :
    (((released q rest).map fun p => (RemoteOutput.sendSubscription offeringClient
        p.subscribingClient p.pendingSubscriptionId : RemoteOutput Address Ident)).filterMap
          (·.acknowledgedId) = (taken q rest).map (·.pendingSubscriptionId)) ∧
    ((released q rest).map fun p => (RemoteOutput.sendSubscription offeringClient
        p.subscribingClient p.pendingSubscriptionId : RemoteOutput Address Ident)).filterMap
          (·.sentId) = (left q rest).head?.toList.map (·.pendingSubscriptionId) := by
  have htaken : taken q rest = [] := by rw [taken, if_neg (by simp [hq])]
  rw [released, htaken, List.nil_append]
  constructor
  · simp [List.filterMap_map, RemoteOutput.acknowledgedId]
  · simp [List.filterMap_map, RemoteOutput.sentId]

end Release

omit [DecidableEq Address] in
/-- A step that leaves the pending subscriptions as they are. -/
lemma Inv.of_samePending (hs : s.Inv) (hsame : SamePending info s.info) :
    ({ s with info := info } : Tracked Address Ident).Inv := by
  have hqueue := hsame.queue_eq
  exact
    { numbered :=
        { consistent := hsame.consistent hs.numbered.consistent
          counter := hsame.subscriptionId.trans hs.numbered.counter
          numbered := fun {r q} hq => hs.numbered.numbered (hqueue ▸ hq : q ∈ s.info.queue r)
          order := fun r => (congrFun hqueue r).symm ▸ hs.numbered.order r }
      idents := fun {r q} hq => hs.idents (hqueue ▸ hq : q ∈ s.info.queue r)
      kinds := fun {r q} hq => hs.kinds (hqueue ▸ hq : q ∈ s.info.queue r)
      bound := hs.bound
      once := hs.once
      subscribe := hs.subscribe
      answered := fun n hn => by
        have hanswered := hs.answered n hn
        rw [← hqueue] at hanswered
        exact hanswered
      sentOnce := hs.sentOnce
      heads := fun {r q rest} hq => hs.heads ((congrFun hqueue r).symm.trans hq) }

omit [DecidableEq Address] in
/-- Clearing the pending subscriptions if there are none. -/
lemma Inv.of_clear (hs : s.Inv) (hempty : ∀ id, s.info.pendingSubscriptions id = none) :
    ({ s with info := s.info.clearPendingSubscriptions } : Tracked Address Ident).Inv where
  numbered := by
    have hinfo : s.info.clearPendingSubscriptions.subscriptionId = s.info.subscriptionId := rfl
    have hnumbered := hs.numbered.of_sublist hinfo
      (consistent_clearPendingSubscriptions s.info) fun r => List.nil_sublist _
    rwa [Numbered.advance_of_eq hinfo] at hnumbered
  idents := fun hq => by cases hq
  kinds := fun hq => by cases hq
  bound := hs.bound
  once := hs.once
  subscribe := hs.subscribe
  answered := fun n hn => by
    have hqueue : ∀ r, ∀ q ∈ s.info.queue r, s.numberOf q ≠ n := by
      intro r q hq
      obtain ⟨-, p, hp, -⟩ := hs.numbered.consistent.mem_queue_iff.mp hq
      rw [hempty] at hp
      cases hp
    exact iff_of_true ((hs.answered n hn).mpr hqueue) fun r q hq => by cases hq
  sentOnce := hs.sentOnce
  heads := fun hq => by cases hq

/-- The state after an event. -/
lemma step_event (s : Tracked Address Ident) (offeringClient : UInt16) (now : ℕ)
    (event : RemoteEvent Address Ident) :
    s.step (.event offeringClient now event) =
      { s.toNumbered.advance (s.info.handle offeringClient now event).1 with
        subscribes := s.subscribes ++ newSubscribes s.toNumbered
          (s.toNumbered.advance (s.info.handle offeringClient now event).1).added event
        acknowledged := s.acknowledged ++
          ((s.info.handle offeringClient now event).2.filterMap (·.acknowledgedId)).map
            (s.toNumbered.advance (s.info.handle offeringClient now event).1).number
        sent := s.sent ++
          ((s.info.handle offeringClient now event).2.filterMap (·.sentId)).map
            (s.toNumbered.advance (s.info.handle offeringClient now event).1).number } :=
  rfl

/-- The state after an answer to the first entry of a queue keeps the invariant, if the calls are
those for what is released. -/
lemma Inv.step_answer (hs : s.Inv) {q : PendingSubscription Address Ident}
    {rest : List (PendingSubscription Address Ident)} (hq : s.info.queue r = q :: rest)
    {offeringClient : UInt16} {now : ℕ} {event : RemoteEvent Address Ident}
    (hevent : IsAnswer q.pendingSubscriptionId event)
    (hcons : (s.info.handle offeringClient now event).1.Consistent)
    (hqueue : (s.info.handle offeringClient now event).1.queue =
      Function.update s.info.queue r (left q rest))
    (hack : (s.info.handle offeringClient now event).2.filterMap (·.acknowledgedId) =
      (taken q rest).map (·.pendingSubscriptionId))
    (hsent : (s.info.handle offeringClient now event).2.filterMap (·.sentId) =
      (left q rest).head?.toList.map (·.pendingSubscriptionId)) :
    (s.step (.event offeringClient now event)).Inv := by
  have hinfo := handle_subscriptionId (s := s.info) offeringClient now hevent
  have hnew (n : ℕ) : newSubscribes s.toNumbered n event = [] := by cases hevent <;> rfl
  have hrelease := hs.of_release hq hinfo hcons hqueue
  rw [step_event, Numbered.advance_of_eq hinfo, hack, hsent, hnew, List.append_nil, List.map_map,
    List.map_map]
  exact hrelease

/-- The state after an entry was put at the end of its queue. -/
lemma Inv.step_entry (hs : s.Inv) {p : PendingSubscription Address Ident} {offeringClient : UInt16}
    {now : ℕ} {event : RemoteEvent Address Ident}
    (hfresh : s.info.pendingSubscriptions s.info.nextId = none)
    (hinfo : (s.info.handle offeringClient now event).1.subscriptionId = s.info.nextId)
    (hcons : (s.info.handle offeringClient now event).1.Consistent)
    (hident : p.isSubscribe → p.sdMessageIdentifier.isSome)
    (hqueue : (s.info.handle offeringClient now event).1.queue =
      Function.update s.info.queue p.subscriber.remote
        (s.info.queue p.subscriber.remote ++ [p.withId s.info.nextId]))
    (hnew : newSubscribes s.toNumbered (s.added + 1) event =
      if p.isSubscribe then [s.added + 1] else [])
    (hack : (s.info.handle offeringClient now event).2.filterMap (·.acknowledgedId) = [])
    (hsent : (s.info.handle offeringClient now event).2.filterMap (·.sentId) =
      if s.info.queue p.subscriber.remote = [] then [s.info.nextId] else []) :
    (s.step (.event offeringClient now event)).Inv := by
  have hadd := hs.of_add hfresh hinfo hcons hident hqueue
  have hnumber : (if s.info.queue p.subscriber.remote = [] then [s.info.nextId] else []).map
      (Function.update s.number s.info.nextId (s.added + 1)) =
        if s.info.queue p.subscriber.remote = [] then [s.added + 1] else [] := by
    split
    · simp
    · rfl
  rw [Numbered.advance_of_add hinfo] at hadd
  rw [step_event, Numbered.advance_of_add hinfo, hack, hsent, List.map_nil, List.append_nil, hnew,
    hnumber]
  exact hadd

omit [DecidableEq Address] in
/-- The kind of the first entry of a queue, by its id. -/
lemma Inv.isSubscribe_of_kind (hs : s.Inv) {q : PendingSubscription Address Ident}
    {rest : List (PendingSubscription Address Ident)} (hq : s.info.queue r = q :: rest) {b : Bool}
    (hkind : ∀ p, s.info.pendingSubscriptions q.pendingSubscriptionId = some p → p.isSubscribe = b) :
    q.isSubscribe = b := by
  obtain ⟨-, p, hp, hpq⟩ := hs.numbered.consistent.mem_queue_iff.mp
    (show q ∈ s.info.queue r by rw [hq]; exact List.mem_cons_self)
  rw [← hpq]
  exact hkind p hp

/-- An answer with another id changes nothing. -/
lemma step_of_not_head (hs : s.info.Consistent) {id : UInt16} {offeringClient : UInt16} {now : ℕ}
    {event : RemoteEvent Address Ident} (hevent : IsAnswer id event)
    (hhead : ¬ Numbered.IsHead s.info id) : s.step (.event offeringClient now event) = s := by
  have hnew (n : ℕ) : newSubscribes s.toNumbered n event = [] := by cases hevent <;> rfl
  have hhandle := hs.handle_of_not_head offeringClient now hevent fun r q rest hq hid =>
    hhead ((Numbered.isHead_iff hs).mpr ⟨r, q, rest, hq, hid⟩)
  rw [step_event, hhandle, Numbered.advance_of_eq rfl, hnew]
  simp

/-- A refusal of the first entry of a queue. -/
lemma Inv.step_subscribeNack (hs : s.Inv) {q : PendingSubscription Address Ident}
    {rest : List (PendingSubscription Address Ident)} (hq : s.info.queue r = q :: rest)
    (hsub : q.isSubscribe = true) {offeringClient client : UInt16} {now : ℕ} :
    (s.step (.event offeringClient now (.subscribeNack client q.pendingSubscriptionId))).Inv := by
  obtain ⟨hcons, hqueue, -, hcalls⟩ := hs.numbered.consistent.handle_subscribeNack offeringClient now
    hq (fun p hp => hs.idents hp) client
  obtain ⟨hack, hsent⟩ := @calls_of_subscribe Address Ident q rest offeringClient client false hsub
  exact hs.step_answer hq (.subscribeNack client) hcons hqueue (hcalls ▸ hack) (hcalls ▸ hsent)

/-- An acknowledgement of the first entry of a queue, which is a refusal if nobody offers the
service. -/
lemma Inv.step_subscribeAck (hs : s.Inv) {q : PendingSubscription Address Ident}
    {rest : List (PendingSubscription Address Ident)} (hq : s.info.queue r = q :: rest)
    (hsub : q.isSubscribe = true) {offeringClient client : UInt16} {now : ℕ} :
    (s.step (.event offeringClient now (.subscribeAck client q.pendingSubscriptionId))).Inv := by
  by_cases hoffering : offeringClient = routingClient
  · subst hoffering
    have hnack : (s.step (.event routingClient now
      (.subscribeNack client q.pendingSubscriptionId))).Inv := hs.step_subscribeNack hq hsub
    rw [step_event, ← handle_subscribeAck_of_stopped] at hnack
    exact hnack
  · obtain ⟨hcons, hqueue, -, -, hcalls⟩ := hs.numbered.consistent.handle_subscribeAck
      offeringClient now hq (fun p hp => hs.idents hp) hoffering client
    obtain ⟨hack, hsent⟩ := @calls_of_subscribe Address Ident q rest offeringClient client true hsub
    exact hs.step_answer hq (.subscribeAck client) hcons hqueue (hcalls ▸ hack) (hcalls ▸ hsent)

/-- **Each step keeps the invariant** if entries are added in time and answers are of the kind of
their entries. -/
lemma Inv.step (hs : s.Inv) {action : TrackedAction Address Ident} (hproper : s.Proper action) :
    (s.step action).Inv := by
  cases action with
  | clear => exact hs.of_clear hproper
  | event offeringClient now event =>
    cases event with
    | subscribe e target ttl sdMessageId client =>
      by_cases he : e ∈ s.info.endpoints
      · obtain ⟨hsame, -, hcalls⟩ := handle_subscribe_of_mem offeringClient now he
          target ttl sdMessageId client
        rw [step_event, hcalls, Numbered.advance_of_eq hsame.subscriptionId]
        have hresult := hs.of_samePending hsame
        simpa [newSubscribes, RemoteOutput.acknowledgedId, RemoteOutput.sentId] using hresult
      · have hfresh := hs.numbered.fresh (hproper he)
        obtain ⟨hcons, hqueue, -, hinfo, hcalls⟩ :=
          hs.numbered.consistent.handle_subscribe_of_notMem offeringClient now hfresh he target ttl
            sdMessageId client
        refine hs.step_entry (p := subscription e target ttl.1 sdMessageId client)
          hfresh hinfo hcons (fun _ => rfl) hqueue ?_ ?_ ?_
        · rw [newSubscribes, if_neg (Nat.succ_ne_self _),
            if_pos (isSubscribe_subscription ..)]
        · rw [hcalls, List.filterMap_append]
          split <;> rfl
        · rw [hcalls, List.filterMap_append]
          change _ = if s.info.queue e.remote = [] then _ else _
          split <;> rfl
    | stopSubscribe e client =>
      have hfresh := hs.numbered.fresh hproper
      obtain ⟨hcons, hqueue, -, hinfo, hcalls⟩ :=
        hs.numbered.consistent.handle_stopSubscribe offeringClient now hfresh e client
      refine hs.step_entry (p := unsubscription e client) hfresh hinfo hcons
        (fun h => by simp at h) hqueue ?_ ?_ ?_
      · rw [if_neg (by simp)]
        rfl
      · rw [hcalls]
        split <;> rfl
      · rw [hcalls]
        change _ = if s.info.queue e.remote = [] then _ else _
        split <;> rfl
    | subscribeAck client id =>
      by_cases hhead : Numbered.IsHead s.info id
      · obtain ⟨r, q, rest, hq, rfl⟩ := (Numbered.isHead_iff hs.numbered.consistent).mp hhead
        exact hs.step_subscribeAck hq (hs.isSubscribe_of_kind hq (hproper hhead))
      · rwa [step_of_not_head hs.numbered.consistent (.subscribeAck client) hhead]
    | subscribeNack client id =>
      by_cases hhead : Numbered.IsHead s.info id
      · obtain ⟨r, q, rest, hq, rfl⟩ := (Numbered.isHead_iff hs.numbered.consistent).mp hhead
        exact hs.step_subscribeNack hq (hs.isSubscribe_of_kind hq (hproper hhead))
      · rwa [step_of_not_head hs.numbered.consistent (.subscribeNack client) hhead]
    | unsubscribeAck id =>
      by_cases hhead : Numbered.IsHead s.info id
      · obtain ⟨r, q, rest, hq, rfl⟩ := (Numbered.isHead_iff hs.numbered.consistent).mp hhead
        obtain ⟨hcons, hqueue, -, hcalls⟩ :=
          hs.numbered.consistent.handle_unsubscribeAck offeringClient now hq
        obtain ⟨hack, hsent⟩ := @calls_of_unsubscribe Address Ident q rest offeringClient
          (hs.isSubscribe_of_kind hq (hproper hhead))
        exact hs.step_answer hq .unsubscribeAck hcons hqueue (hcalls ▸ hack) (hcalls ▸ hsent)
      · rwa [step_of_not_head hs.numbered.consistent .unsubscribeAck hhead]

end Inv

/-! ## Main result -/

/-- **The pending subscriptions.** In every run of operations in which entries are added in time, the
map and the lists fit, the lists are in the order of arrival, an id that is assigned is not pending,
and removing an id that is not the first one of a list changes nothing. In every run of entries and
answers, of the kind of the entry if its id is the first one of a list, that is not cleared while
entries are pending, each subscription is acknowledged once, when it is no longer pending, and of each
remote with pending entries exactly one is out for an answer.

**Proof sketch.** Both are invariants of the steps. In the second one the entries at the front of a
queue are the only ones that were sent, and a subscription leaves its queue exactly when it is
acknowledged. -/
theorem pendingQueue_of_inTime (isMulticast : Bool) :
    (∀ ops : List (PendingOp Address Ident),
      Runs.Along Numbered.step Numbered.InTime (.init isMulticast) ops →
      (Runs.run Numbered.step (.init isMulticast) ops).InOrder ∧
      ((Runs.run Numbered.step (.init isMulticast) ops).MayAdd →
        (Runs.run Numbered.step (.init isMulticast) ops).info.pendingSubscriptions
          (Runs.run Numbered.step (.init isMulticast) ops).info.nextId = none) ∧
      ∀ id, ¬ Numbered.IsHead (Runs.run Numbered.step (.init isMulticast) ops).info id →
        (Runs.run Numbered.step (.init isMulticast) ops).info.removePendingSubscription id =
          ([], (Runs.run Numbered.step (.init isMulticast) ops).info)) ∧
    ∀ actions : List (TrackedAction Address Ident),
      Runs.Along step Proper (init isMulticast) actions →
      (Runs.run step (init isMulticast) actions).Accounted := by
  refine ⟨fun ops hops => ?_, fun actions hactions => ?_⟩
  · have hs := @Runs.inv_run_of_along _ _ Numbered.step Numbered.Inv Numbered.InTime
      (fun hs htime => hs.step htime) _ _ (Numbered.inv_init isMulticast) hops
    refine ⟨hs.inOrder, hs.fresh, fun id hid => ?_⟩
    exact hs.consistent.removePendingSubscription_of_not_head fun r q rest hq hid' =>
      hid ((Numbered.isHead_iff hs.consistent).mpr ⟨r, q, rest, hq, hid'⟩)
  · have hs := @Runs.inv_run_of_along _ _ step Inv Proper (fun hs hproper => hs.step hproper) _ _
      (inv_init isMulticast) hactions
    exact hs.accounted

/-- A subscription that is added, sent and acknowledged. -/
theorem pendingQueue_of_inTime_one :
    (Runs.run step (init false) [
      .event 1 0 (.subscribe ⟨1, 1000, false⟩ ⟨1, 1000, false⟩ ⟨3, by decide⟩ () 0),
      .event 1 0 (.subscribeAck 0 1)] : Tracked ℕ Unit).acknowledged = [1] ∧
    (Runs.run step (init false) [
      .event 1 0 (.subscribe ⟨1, 1000, false⟩ ⟨1, 1000, false⟩ ⟨3, by decide⟩ () 0),
      .event 1 0 (.subscribeAck 0 1)] : Tracked ℕ Unit).Accounted := by
  refine ⟨rfl, (pendingQueue_of_inTime false).2 _ ⟨fun _ id hid => ?_, fun _ p hp => ?_, trivial⟩⟩
  · cases hid
  · obtain rfl := Option.some.inj hp
    rfl

end Tracked

/-! ## An id that comes back -/

namespace Numbered

/-- A subscription of a remote, and one of another. -/
def first : PendingSubscription ℕ Unit :=
  EventgroupInfo.subscription ⟨1, 1000, false⟩ ⟨1, 1000, false⟩ 3 () 0

/-- See `first`. -/
def second : PendingSubscription ℕ Unit :=
  EventgroupInfo.subscription ⟨2, 1000, false⟩ ⟨2, 1000, false⟩ 3 () 0

/-- The first subscription stays pending, and so many of the other remote are added and removed. -/
def wrapOps (n : ℕ) : List (PendingOp ℕ Unit) :=
  .add first :: (List.range n).flatMap fun i => [.add second, .remove (idOf (i + 2))]

/-- Fewer than 65535 entries are pending. -/
def FewPending {Address Ident : Type} (s : Numbered Address Ident) : Prop :=
  ∃ ids : List UInt16, ids.length < 65535 ∧
    ∀ id, (s.info.pendingSubscriptions id).isSome → id ∈ ids

/-- Only the first subscription is pending. -/
structure OnlyFirst (n : ℕ) (s : Numbered ℕ Unit) : Prop where
  pending : s.info.pendingSubscriptions = Function.update (fun _ => none) (idOf 1) (some first)
  byRemote : s.info.pendingSubscriptionsByRemote =
    Function.update (fun _ => none) first.subscriber.remote (some [idOf 1])
  counter : s.info.subscriptionId = idOf (n + 1)

/-- The state after a step has the new eventgroup info. -/
@[simp] lemma info_advance {Address Ident : Type} (s : Numbered Address Ident)
    (info : EventgroupInfo Address Ident) : (s.advance info).info = info := by
  rw [advance]
  split <;> rfl

/-- If one subscription is pending at most, few are. -/
lemma OnlyFirst.fewPending {n : ℕ} {s : Numbered ℕ Unit} (hs : OnlyFirst n s) : s.FewPending := by
  refine ⟨[idOf 1], by decide, fun id hid => ?_⟩
  rw [hs.pending] at hid
  by_contra hne
  rw [List.mem_singleton] at hne
  simp [Function.update_of_ne hne] at hid

/-- One round: the next subscription of the other remote is added and removed. -/
lemma OnlyFirst.round {n : ℕ} (hn : n < 65534) {s : Numbered ℕ Unit} (hs : OnlyFirst n s) :
    FewPending (s.step (.add second)) ∧
      OnlyFirst (n + 1) ((s.step (.add second)).step (.remove (idOf (n + 2)))) := by
  have hnext : s.info.nextId = idOf (n + 2) := nextId_of_subscriptionId hs.counter
  have hne : idOf (n + 2) ≠ idOf 1 := (idOf_injOn (Nat.le_refl 1) (by omega) (by omega)).symm
  have hremote : second.subscriber.remote ≠ first.subscriber.remote := by decide
  have hby : s.info.pendingSubscriptionsByRemote second.subscriber.remote = none := by
    rw [hs.byRemote, Function.update_of_ne hremote]
  have hadd := EventgroupInfo.addPendingSubscription_snd second s.info
  rw [hby, hnext] at hadd
  constructor
  · refine ⟨[idOf 1, idOf (n + 2)], by simp, fun id hid => ?_⟩
    rw [step, info_advance, hadd, hs.pending] at hid
    by_contra hmem
    rw [List.mem_cons, List.mem_singleton, not_or] at hmem
    simp [Function.update_of_ne hmem.1, Function.update_of_ne hmem.2] at hid
  · have hback : (EventgroupInfo.removePendingSubscription
        (s.info.addPendingSubscription second).2 (idOf (n + 2))).2 =
        { s.info with subscriptionId := idOf (n + 2) } := by
      rw [hadd, EventgroupInfo.removePendingSubscription]
      simp only [Function.update_self, Option.getD_none, List.nil_append, if_true,
        EventgroupInfo.releaseQueued, List.isEmpty_nil]
      congr 1
      · rw [Function.update_idem, Function.update_eq_self_iff, hs.pending,
          Function.update_of_ne hne]
      · rw [Function.update_idem, Function.update_eq_self_iff, hby]
    rw [step, step, info_advance]
    refine ⟨?_, ?_, ?_⟩
    · rw [info_advance, hback]
      exact hs.pending
    · rw [info_advance, hback]
      exact hs.byRemote
    · rw [info_advance, hback]

/-- All rounds: at most two entries are pending at any time, and in the end only the first one. -/
lemma onlyFirst_wrapOps (n : ℕ) (hn : n ≤ 65534) :
    Runs.Along step (fun s op => (s.step op).FewPending) (init false) (wrapOps n) ∧
      OnlyFirst n (Runs.run step (init false) (wrapOps n)) := by
  have hfirst : OnlyFirst 0 ((init false).step (.add first)) := ⟨rfl, rfl, rfl⟩
  induction n with
  | zero => exact ⟨⟨hfirst.fewPending, trivial⟩, hfirst⟩
  | succ n ih =>
    obtain ⟨halong, honly⟩ := ih (by omega)
    obtain ⟨hadd, hremove⟩ := honly.round (by omega)
    have hops : wrapOps (n + 1) = wrapOps n ++ [.add second, .remove (idOf (n + 2))] := by
      rw [wrapOps, wrapOps, List.range_succ, List.flatMap_append, List.cons_append]
      rfl
    rw [hops, Runs.run_append, Runs.along_append]
    exact ⟨⟨halong, hadd, hremove.fewPending, trivial⟩, hremove⟩

/-- **An id comes back while it is pending.** Two entries at most are pending at any time, and after
65534 further ones the id of the next entry is that of the first one, which is still pending. -/
theorem not_fresh_of_wrap :
    Runs.Along step (fun s op => (s.step op).FewPending) (init false) (wrapOps 65534) ∧
    (Runs.run step (init false) (wrapOps 65534)).info.pendingSubscriptions
      (Runs.run step (init false) (wrapOps 65534)).info.nextId = some first := by
  obtain ⟨halong, honly⟩ := onlyFirst_wrapOps 65534 (Nat.le_refl _)
  refine ⟨halong, ?_⟩
  have hid : idOf (65534 + 1 + 1) = idOf 1 := by
    apply UInt16.toNat_inj.mp
    rw [toNat_idOf_succ, toNat_idOf_succ]
  rw [nextId_of_subscriptionId honly.counter, hid, honly.pending, Function.update_self]

end Numbered

end Vsomeip
