import Mathlib.Algebra.BigOperators.Group.Finset.Basic
import Mathlib.Algebra.Order.BigOperators.Group.Finset
import Vsomeip.Lib.Runs
import Vsomeip.ServiceDiscovery.FindPaging

set_option relaxedAutoImplicit false
set_option autoImplicit false

/-!
# The phases of a find

A service instance that is requested is looked for. When the debounce timer expires, a FindService
entry is sent for each request for which none was sent yet, and these requests are bound to a new
timer. At the first expiries of that timer the entries are repeated, each time after twice the delay;
at the last one the timer is given up. An offer of the service, or its end, makes further entries
needless, and resuming the service discovery starts all over.

The functions run one after the other. The runtime is alive and entries can be created.

## Main definitions

* `Vsomeip.Sd.FindPhase` — the requests and the timers, with the entries that were sent.
* `Vsomeip.Sd.FindPhase.requestService`, `releaseService`, `start`, `onFindDebounceTimerExpired`,
  `onFindRepetitionPhaseTimerExpired` — the functions of the source.
* `Vsomeip.Sd.FindPhase.potential` — the entries that may still be sent.
* `Vsomeip.Sd.FindPhase.Stage` — how far the finds for a request have come.

## Main results

* `Vsomeip.Sd.FindPhase.Inv.step` — every step keeps the invariant.
* `Vsomeip.Sd.FindPhase.finds_run` — how many finds are sent, when the timers end, and which finds
  an open request has got.
-/

namespace Vsomeip.Sd

/-! ## Requests -/

/-- A service instance. -/
abbrev InstanceKey : Type := UInt16 × UInt16

/-- The order of the nested maps. -/
def KeyLt (a b : InstanceKey) : Prop := a.1 < b.1 ∨ a.1 = b.1 ∧ a.2 < b.2

instance (a b : InstanceKey) : Decidable (KeyLt a b) := inferInstanceAs (Decidable (_ ∨ _))

/-- The order of the keys is transitive. -/
lemma KeyLt.trans {a b c : InstanceKey} (h : KeyLt a b) (h' : KeyLt b c) : KeyLt a c := by
  simp only [KeyLt, UInt16.lt_iff_toNat_lt, ← UInt16.toNat_inj] at h h' ⊢
  omega

/-- The order of the keys is irreflexive. -/
lemma KeyLt.irrefl (a : InstanceKey) : ¬ KeyLt a a := by
  rintro (h | ⟨-, h⟩)
  · exact UInt16.lt_irrefl a.1 h
  · exact UInt16.lt_irrefl a.2 h

/-- The order of the keys is total. -/
lemma KeyLt.trichotomy (a b : InstanceKey) : KeyLt a b ∨ a = b ∨ KeyLt b a := by
  simp only [KeyLt, Prod.ext_iff, UInt16.lt_iff_toNat_lt, ← UInt16.toNat_inj]
  omega

namespace Requests

variable (r : Requests)

/-- No requests. -/
def empty : Requests := ⟨[], .nil, .nil⟩

/-- The requested service instances. -/
def keys : Finset InstanceKey := (r.entries.map Prod.fst).toFinset

/-- The requests that have a property. -/
def filter (p : RequestRef → Bool) : Requests :=
  ⟨r.entries.filter p, r.sorted.sublist List.filter_sublist,
    r.distinct.sublist (List.filter_sublist.map _)⟩

/-- A request at a new address is put into the map. -/
def insert (key : InstanceKey) (address : ℕ) (h : ∀ e ∈ r.entries, e.2 < address) : Requests where
  entries := (r.entries.filter fun e => KeyLt e.1 key) ++
    (key, address) :: r.entries.filter fun e => KeyLt key e.1
  sorted := by
    refine List.pairwise_append.mpr ⟨r.sorted.sublist List.filter_sublist, ?_, fun a ha b hb => ?_⟩
    · refine List.pairwise_cons.mpr ⟨fun e he => ?_, r.sorted.sublist List.filter_sublist⟩
      exact of_decide_eq_true (List.mem_filter.mp he).2
    · have hlt : KeyLt a.1 key := of_decide_eq_true (List.mem_filter.mp ha).2
      rcases List.mem_cons.mp hb with rfl | hb
      · exact hlt
      · exact hlt.trans (of_decide_eq_true (List.mem_filter.mp hb).2)
  distinct := by
    rw [List.map_append, List.map_cons]
    refine List.nodup_append.mpr ⟨r.distinct.sublist (List.filter_sublist.map _),
      List.nodup_cons.mpr ⟨fun haddress => ?_, r.distinct.sublist (List.filter_sublist.map _)⟩, ?_⟩
    · obtain ⟨e, he, heq⟩ := List.mem_map.mp haddress
      exact absurd heq (h e (List.mem_filter.mp he).1).ne
    · intro x hx y hy heq
      obtain ⟨a, ha, rfl⟩ := List.mem_map.mp hx
      obtain ⟨ha, hlt⟩ := List.mem_filter.mp ha
      rcases List.mem_cons.mp hy with rfl | hy
      · exact absurd heq (h a ha).ne
      · obtain ⟨b, hb, rfl⟩ := List.mem_map.mp hy
        obtain ⟨hb, hgt⟩ := List.mem_filter.mp hb
        obtain rfl := List.inj_on_of_nodup_map r.distinct ha hb heq
        exact KeyLt.irrefl key ((of_decide_eq_true hgt).trans (of_decide_eq_true hlt))

/-- The keys of the requests. -/
lemma mem_keys_iff {key : InstanceKey} : key ∈ r.keys ↔ ∃ e ∈ r.entries, e.1 = key := by
  rw [keys, List.mem_toFinset, List.mem_map]

/-- The requests after a new one. -/
lemma mem_insert_iff {key : InstanceKey} {address : ℕ} {h : ∀ e ∈ r.entries, e.2 < address}
    (hkey : key ∉ r.keys) {e : RequestRef} :
    e ∈ (r.insert key address h).entries ↔ e = (key, address) ∨ e ∈ r.entries := by
  have hne : e ∈ r.entries → KeyLt e.1 key ∨ KeyLt key e.1 := fun he => by
    rcases KeyLt.trichotomy e.1 key with hlt | heq | hlt
    · exact Or.inl hlt
    · exact absurd (r.mem_keys_iff.mpr ⟨e, he, heq⟩) hkey
    · exact Or.inr hlt
  simp only [insert, List.mem_append, List.mem_cons, List.mem_filter, decide_eq_true_eq]
  tauto

/-- As many requests as service instances. -/
lemma card_keys : r.keys.card = r.entries.length := by
  rw [keys, List.toFinset_card_of_nodup r.keys_nodup, List.length_map]

end Requests

/-! ## The functions -/

/-- A timer of `find_repetition_phase_timers_` with its requests, and the number of repetitions and the
delay with which its handler is called. -/
structure FindTimer where
  id : ℕ
  requests : Requests
  repetition : UInt8
  lastDelay : UInt32

/-- A timer that is started again. -/
def FindTimer.next (t : FindTimer) : FindTimer :=
  { t with repetition := t.repetition + 1, lastDelay := t.lastDelay * 2 }

/-- The configuration of the finds: `repetitions_base_delay_` in milliseconds is part of it. -/
structure FindPhaseConfig extends FindConfig where
  repetitionsBaseDelay : UInt32

/-- The requests that were ever created, those in `requested_`, the timers, and `is_suspended_`. Beside
them are kept: the entries that were sent, what the request at an address was created for, and how often
the finds for a service instance were started, by a request or by resuming. -/
structure FindPhase where
  memory : FindMemory
  next : ℕ
  requested : Requests
  fresh : ∀ e ∈ requested.entries, e.2 < next
  timers : List FindTimer
  nextTimer : ℕ
  isSuspended : Bool
  sent : List ServiceentryImpl
  createdFor : ℕ → InstanceKey
  started : InstanceKey → ℕ

namespace FindPhase

/-- Nothing is requested. -/
def init : FindPhase where
  memory _ := ⟨0, 0, 0, 0⟩
  next := 0
  requested := Requests.empty
  fresh _ he := absurd he List.not_mem_nil
  timers := []
  nextTimer := 0
  isSuspended := false
  sent := []
  createdFor _ := (0, 0)
  started _ := 0

variable (cfg : FindPhaseConfig) (s : FindPhase)

/-- `request_service`: a request is created if there is none. -/
def requestService (key : InstanceKey) (major : UInt8) (minor ttl : UInt32) : FindPhase :=
  if key ∈ s.requested.keys then s
  else
    { s with
      memory := Function.update s.memory s.next ⟨major, minor, ttl, 0⟩
      next := s.next + 1
      requested := s.requested.insert key s.next s.fresh
      fresh := fun e he => by
        simp only [Requests.insert, List.mem_append, List.mem_cons, List.mem_filter] at he
        rcases he with ⟨he, -⟩ | rfl | ⟨he, -⟩
        · exact Nat.lt_succ_of_lt (s.fresh e he)
        · exact Nat.lt_succ_self s.next
        · exact Nat.lt_succ_of_lt (s.fresh e he)
      createdFor := Function.update s.createdFor s.next key
      started := Function.update s.started key (s.started key + 1) }

/-- `release_service`. The timers keep the request. -/
def releaseService (key : InstanceKey) : FindPhase :=
  { s with
    requested := s.requested.filter fun e => e.1 ≠ key
    fresh := fun e he => s.fresh e (List.mem_of_mem_filter he) }

/-- `find_request`. -/
def findRequest (key : InstanceKey) : Option ℕ :=
  (s.requested.entries.find? fun e => e.1 = key).map Prod.snd

/-- What `process_serviceentry` and `process_offerservice_serviceentry` do to the request when the
service is offered or its offer is stopped. -/
def answered (key : InstanceKey) : FindPhase :=
  match s.findRequest key with
  | some address => { s with memory := s.memory.answer cfg.toFindConfig address }
  | none => s

/-- The counter of a request is set to zero. -/
def resetCounter (memory : FindMemory) (address : ℕ) : FindMemory :=
  Function.update memory address { memory address with sentCounter := 0 }

/-- `start`: when the service discovery is resumed, the finds for all requests are sent again. -/
def start : FindPhase :=
  if s.isSuspended then
    { s with
      memory := s.requested.entries.foldl (fun memory e => resetCounter memory e.2) s.memory
      isSuspended := false
      started := fun key => s.started key + if key ∈ s.requested.keys then 1 else 0 }
  else s

/-- `stop`. -/
def stop : FindPhase := { s with isSuspended := true }

/-- Finds are put into messages and sent. -/
def sendFinds (requests : Requests) (fuel : ℕ) : Option FindPhase :=
  (fillMessageWithFindEntries cfg.toFindConfig s.requested.keys requests s.memory fuel).map
    fun result => { s with memory := result.1, sent := s.sent ++ result.2.flatten }

/-- The requests for which nothing was sent yet. -/
def newFinds : Requests := s.requested.filter fun e => (s.memory e.2).sentCounter = 0

/-- `on_find_debounce_timer_expired`. -/
def onFindDebounceTimerExpired (fuel : ℕ) : Option FindPhase :=
  if s.newFinds.entries = [] then some s
  else
    (s.sendFinds cfg s.newFinds fuel).map fun s' =>
      { s' with
        timers := s.timers ++ [⟨s.nextTimer, s.newFinds, 1, cfg.repetitionsBaseDelay⟩]
        nextTimer := s.nextTimer + 1 }

/-- `on_find_repetition_phase_timer_expired`. -/
def onFindRepetitionPhaseTimerExpired (t : FindTimer) (fuel : ℕ) : Option FindPhase :=
  if t.repetition ≤ cfg.repetitionsMax then
    (s.sendFinds cfg t.requests fuel).map fun s' =>
      { s' with timers := s.timers.map fun t' => if t'.id = t.id then t.next else t' }
  else some { s with timers := s.timers.filter fun t' => t'.id ≠ t.id }

end FindPhase

/-- What happens to the finds. A handler of a timer runs for as long as there is fuel; if that is not
enough, it does not end in this step. -/
inductive FindAction
  | requestService (key : InstanceKey) (major : UInt8) (minor ttl : UInt32)
  | releaseService (key : InstanceKey)
  | answered (key : InstanceKey)
  | start
  | stop
  | debounce (fuel : ℕ)
  | repetition (i fuel : ℕ)

/-- The finds as a state machine. -/
def FindPhase.step (cfg : FindPhaseConfig) (s : FindPhase) : FindAction → FindPhase
  | .requestService key major minor ttl => s.requestService key major minor ttl
  | .releaseService key => s.releaseService key
  | .answered key => s.answered cfg key
  | .start => s.start
  | .stop => s.stop
  | .debounce fuel => (s.onFindDebounceTimerExpired cfg fuel).getD s
  | .repetition i fuel =>
    (s.timers[i]?.bind fun t => s.onFindRepetitionPhaseTimerExpired cfg t fuel).getD s

/-! ## Counting -/

namespace FindMemory

variable {cfg : FindConfig} {memory : FindMemory} {t : Finset ℕ}

/-- No counter is beyond the limit. -/
def Bounded (cfg : FindConfig) (memory : FindMemory) : Prop :=
  ∀ address, (memory address).sentCounter.toNat ≤ cfg.limit

/-- The number of entries that may still be sent for some requests. -/
def remaining (cfg : FindConfig) (memory : FindMemory) (t : Finset ℕ) : ℕ :=
  ∑ address ∈ t, (cfg.limit - (memory address).sentCounter.toNat)

/-- Only one summand changes. -/
lemma sum_add_of_eq_off {f g : ℕ → ℕ} {a : ℕ} (ha : a ∈ t) (h : ∀ b ∈ t, b ≠ a → g b = f b) :
    ∑ b ∈ t, g b + f a = ∑ b ∈ t, f b + g a := by
  have hrest : ∑ b ∈ t.erase a, g b = ∑ b ∈ t.erase a, f b :=
    Finset.sum_congr rfl fun b hb => h b (Finset.mem_of_mem_erase hb) (Finset.ne_of_mem_erase hb)
  rw [← Finset.add_sum_erase t f ha, ← Finset.add_sum_erase t g ha, hrest]
  omega

/-- A counter below the limit does not overflow. -/
lemma toNat_succ_of_lt (hmax : cfg.repetitionsMax ≠ 255) {c : UInt8} (h : c.toNat < cfg.limit) :
    (c + 1).toNat = c.toNat + 1 := by
  refine toNat_succ_iff.mpr fun h255 => hmax ?_
  have hlt := cfg.repetitionsMax.toNat_lt
  have hnat : (255 : UInt8).toNat = 255 := rfl
  rw [FindConfig.limit, h255] at h
  rw [← UInt8.toNat_inj]
  omega

/-- Counting below the limit keeps the counters bounded. -/
lemma Bounded.count (h : Bounded cfg memory) (hmax : cfg.repetitionsMax ≠ 255) {address : ℕ}
    (hlt : (memory address).sentCounter.toNat < cfg.limit) : Bounded cfg (memory.count address) := by
  intro other
  by_cases heq : other = address
  · subst heq
    rw [FindMemory.count, Function.update_self]
    dsimp only
    rw [toNat_succ_of_lt hmax hlt]
    exact hlt
  · rw [memory.count_of_ne heq]
    exact h other

/-- What is counted cannot be sent any more. -/
lemma remaining_count (hmax : cfg.repetitionsMax ≠ 255) {address : ℕ}
    (hlt : (memory address).sentCounter.toNat < cfg.limit) :
    (memory.count address).remaining cfg t + (if address ∈ t then 1 else 0) =
      memory.remaining cfg t := by
  have hoff : ∀ b, b ≠ address → cfg.limit - ((memory.count address) b).sentCounter.toNat =
      cfg.limit - (memory b).sentCounter.toNat := fun b hb => by rw [memory.count_of_ne hb]
  by_cases hmem : address ∈ t
  · have hsum := sum_add_of_eq_off hmem fun b _ => hoff b
    have hself : ((memory.count address) address).sentCounter.toNat =
        (memory address).sentCounter.toNat + 1 := by
      rw [FindMemory.count, Function.update_self]
      exact toNat_succ_of_lt hmax hlt
    rw [hself] at hsum
    rw [if_pos hmem, remaining, remaining]
    omega
  · rw [if_neg hmem, Nat.add_zero, remaining, remaining]
    exact Finset.sum_congr rfl fun b hb => hoff b fun heq => hmem (heq ▸ hb)

/-- Some requests are counted, each below the limit. -/
lemma remaining_countAll (hmax : cfg.repetitionsMax ≠ 255) {es : List RequestRef}
    (hes : (es.map Prod.snd).Nodup) (h : Bounded cfg memory)
    (hlt : ∀ e ∈ es, (memory e.2).sentCounter.toNat < cfg.limit) :
    Bounded cfg (memory.countAll es) ∧
      (memory.countAll es).remaining cfg t + es.countP (fun e => e.2 ∈ t) =
        memory.remaining cfg t := by
  induction es generalizing memory with
  | nil => exact ⟨h, rfl⟩
  | cons e es ih =>
    rw [List.map_cons, List.nodup_cons] at hes
    obtain ⟨he, hrest⟩ := List.forall_mem_cons.mp hlt
    have hother : ∀ d ∈ es, (memory.count e.2) d.2 = memory d.2 := fun d hd =>
      memory.count_of_ne fun heq => hes.1 (heq ▸ List.mem_map_of_mem hd)
    have hlater : ∀ d ∈ es, ((memory.count e.2) d.2).sentCounter.toNat < cfg.limit := fun d hd => by
      rw [hother d hd]
      exact hrest d hd
    obtain ⟨hbounded, hsum⟩ := ih hes.2 (h.count hmax he) hlater
    refine ⟨hbounded, ?_⟩
    have hcount := remaining_count (t := t) hmax he
    rw [List.countP_cons]
    have hcons : memory.countAll (e :: es) = (memory.count e.2).countAll es := rfl
    rw [hcons]
    simp only [decide_eq_true_eq]
    omega

end FindMemory

/-- The number of entries for a service instance. -/
def entriesFor (key : InstanceKey) (entries : List ServiceentryImpl) : ℕ :=
  entries.countP fun x => x.service = key.1 ∧ x.instance_ = key.2

/-- The addresses of the requests that were created for a service instance. -/
def addresses (owner : ℕ → InstanceKey) (next : ℕ) (key : InstanceKey) : Finset ℕ :=
  (Finset.range next).filter fun address => owner address = key

/-- The requests exist, each for its service instance. -/
def Owned (owner : ℕ → InstanceKey) (next : ℕ) (es : List RequestRef) : Prop :=
  ∀ e ∈ es, e.2 < next ∧ owner e.2 = e.1

section Fill

variable {cfg : FindConfig} {requested : Finset InstanceKey} {requests : Requests}
  {memory : FindMemory} {owner : ℕ → InstanceKey} {next : ℕ}

/-- The entries for a key in two lists. -/
lemma entriesFor_append (key : InstanceKey) (xs ys : List ServiceentryImpl) :
    entriesFor key (xs ++ ys) = entriesFor key xs + entriesFor key ys := List.countP_append

/-- The entries for a service instance are those of its requests. -/
lemma entriesFor_findEntries {es : List RequestRef} (h : Owned owner next es) (key : InstanceKey) :
    entriesFor key (findEntries memory es) = es.countP fun e => e.2 ∈ addresses owner next key := by
  rw [entriesFor, findEntries, List.countP_map]
  refine List.countP_congr fun e he => ?_
  obtain ⟨hlt, howner⟩ := h e he
  simp [addresses, FindRequest.entry, hlt, howner, Prod.ext_iff]

/-- What a pending request may still get. -/
lemma lt_limit_of_pending (h : memory.Bounded cfg) {es : List RequestRef} {e : RequestRef}
    (he : e ∈ pendingEntries cfg requested memory es) :
    (memory e.2).sentCounter.toNat < cfg.limit :=
  lt_of_le_of_ne (h e.2) (mem_pendingEntries_iff.mp he).2.2

/-- Some of the pending requests get an entry each. -/
lemma spends_of_pending (hmax : cfg.repetitionsMax ≠ 255) (h : memory.Bounded cfg)
    (howned : Owned owner next requests.entries) {es : List RequestRef}
    (hes : es.Sublist (pendingRequests cfg requested requests memory)) :
    (memory.countAll es).Bounded cfg ∧ (∀ key,
      entriesFor key (findEntries memory es) +
        (memory.countAll es).remaining cfg (addresses owner next key) =
          memory.remaining cfg (addresses owner next key)) ∧
      es.length + (memory.countAll es).remaining cfg (Finset.range next) =
        memory.remaining cfg (Finset.range next) := by
  have hnodup := (pendingRequests_nodup memory).sublist (hes.map Prod.snd)
  have hlt : ∀ e ∈ es, (memory e.2).sentCounter.toNat < cfg.limit := fun e he =>
    lt_limit_of_pending h (hes.subset he)
  have hmem : Owned owner next es := fun e he =>
    howned e (mem_pendingEntries_iff.mp (hes.subset he)).1
  refine ⟨(FindMemory.remaining_countAll (t := ∅) hmax hnodup h hlt).1, fun key => ?_, ?_⟩
  · rw [entriesFor_findEntries hmem]
    have := (FindMemory.remaining_countAll (t := addresses owner next key) hmax hnodup h hlt).2
    omega
  · have hall : es.countP (fun e => e.2 ∈ Finset.range next) = es.length :=
      List.countP_eq_length.mpr fun e he => by simpa using (hmem e he).1
    have := (FindMemory.remaining_countAll (t := Finset.range next) hmax hnodup h hlt).2
    omega

/-- `fill_message_with_find_entries` ends, whatever the counters are. What it sends for a service
instance could be sent before, and cannot be sent any more. -/
lemma fill_spends (hmax : cfg.repetitionsMax ≠ 255) (h : memory.Bounded cfg)
    (howned : Owned owner next requests.entries) :
    ∃ result, Loop.Returns (fillMessageWithFindEntries cfg requested requests memory) result ∧
      result.1.Bounded cfg ∧ ∀ key,
        entriesFor key result.2.flatten + result.1.remaining cfg (addresses owner next key) =
          memory.remaining cfg (addresses owner next key) := by
  let I (l : FindLoop) : Prop := l.start = 0 ∧ l.memory.Bounded cfg ∧ ∀ key,
    entriesFor key l.messages.flatten + l.memory.remaining cfg (addresses owner next key) =
      memory.remaining cfg (addresses owner next key)
  refine Loop.exists_returns (I := I) (fun l => l.memory.remaining cfg (Finset.range next)) ?_
    ⟨rfl, h, fun key => Nat.zero_add _⟩
  rintro ⟨m, messages, start⟩ ⟨rfl, hbounded, hspent⟩
  dsimp only at hbounded hspent
  rw [findRound_eq]
  by_cases hle : (pendingRequests cfg requested requests m).length ≤ cfg.pageSize
  · obtain ⟨hbounded', hspent', -⟩ := spends_of_pending hmax hbounded howned (List.Sublist.refl _)
    rw [if_pos hle]
    refine Or.inr ⟨_, rfl, hbounded', fun key => ?_⟩
    dsimp only
    rw [List.flatten_append, List.flatten_singleton, entriesFor_append, ← hspent key,
      ← hspent' key, Nat.add_assoc]
  · obtain ⟨hbounded', hspent', htotal⟩ :=
      spends_of_pending hmax hbounded howned (List.take_sublist cfg.pageSize _)
    rw [if_neg hle]
    refine Or.inl ⟨_, rfl, ⟨rfl, hbounded', fun key => ?_⟩, ?_⟩
    · dsimp only
      rw [List.flatten_append, List.flatten_singleton, entriesFor_append, ← hspent key,
        ← hspent' key, Nat.add_assoc]
    · have hpage := pageSize_pos cfg
      rw [List.length_take] at htotal
      dsimp only
      omega

end Fill

/-! ## What every run keeps -/

namespace FindPhase

variable {cfg : FindPhaseConfig} {s s' : FindPhase}

/-- The entries for a service instance that may still be sent. -/
def potential (cfg : FindPhaseConfig) (s : FindPhase) (key : InstanceKey) : ℕ :=
  s.memory.remaining cfg.toFindConfig (addresses s.createdFor s.next key)

/-- A timer is at a repetition, with the delay of it. -/
structure OnSchedule (cfg : FindPhaseConfig) (t : FindTimer) : Prop where
  pos : 1 ≤ t.repetition.toNat
  le : t.repetition.toNat ≤ cfg.limit
  delay : t.lastDelay = cfg.repetitionsBaseDelay * 2 ^ (t.repetition.toNat - 1)

/-- The requests are those of their service instances, what was sent and may be sent was started, and
the timers are on schedule. -/
structure Inv (cfg : FindPhaseConfig) (s : FindPhase) : Prop where
  bounded : s.memory.Bounded cfg.toFindConfig
  owned : Owned s.createdFor s.next s.requested.entries
  timersOwned : ∀ t ∈ s.timers, Owned s.createdFor s.next t.requests.entries
  spent : ∀ key, entriesFor key s.sent + s.potential cfg key ≤ cfg.limit * s.started key
  schedule : ∀ t ∈ s.timers, OnSchedule cfg t
  ids : ∀ t ∈ s.timers, t.id < s.nextTimer
  idsNodup : (s.timers.map FindTimer.id).Nodup

/-- The addresses of a new request. -/
lemma addresses_succ (owner : ℕ → InstanceKey) (next : ℕ) (key other : InstanceKey) :
    addresses (Function.update owner next key) (next + 1) other =
      if other = key then insert next (addresses owner next other) else addresses owner next other := by
  have hold : (Finset.range next).filter (fun a => Function.update owner next key a = other) =
      addresses owner next other := by
    refine Finset.filter_congr fun a ha => ?_
    rw [Function.update_of_ne (Finset.mem_range.mp ha).ne]
  rw [addresses, Finset.range_add_one, Finset.filter_insert, hold, Function.update_self]
  by_cases h : other = key
  · rw [if_pos h, if_pos h.symm]
  · rw [if_neg h, if_neg (Ne.symm h)]

/-- A request is new: its counter is zero, and the others stay what they are. -/
lemma remaining_new (cfg : FindConfig) (memory : FindMemory) {next : ℕ} (r : FindRequest)
    (owner : ℕ → InstanceKey) (key other : InstanceKey) (hr : r.sentCounter = 0) :
    FindMemory.remaining cfg (Function.update memory next r)
        (addresses (Function.update owner next key) (next + 1) other) =
      memory.remaining cfg (addresses owner next other) + if other = key then cfg.limit else 0 := by
  have hnot : next ∉ addresses owner next other := by simp [addresses]
  have hold : ∑ a ∈ addresses owner next other,
      (cfg.limit - (Function.update memory next r a).sentCounter.toNat) =
        memory.remaining cfg (addresses owner next other) :=
    Finset.sum_congr rfl fun a ha => by rw [Function.update_of_ne (ne_of_mem_of_not_mem ha hnot)]
  rw [addresses_succ]
  split_ifs
  · rw [FindMemory.remaining, Finset.sum_insert hnot, hold, Function.update_self, hr]
    exact Nat.add_comm _ _
  · exact hold

/-- Owners stay what they are when another request is created. -/
lemma owned_new {owner : ℕ → InstanceKey} {next : ℕ} {es : List RequestRef}
    (h : Owned owner next es) (key : InstanceKey) :
    Owned (Function.update owner next key) (next + 1) es := fun e he => by
  obtain ⟨hlt, howner⟩ := h e he
  exact ⟨Nat.lt_succ_of_lt hlt, by rw [Function.update_of_ne hlt.ne, howner]⟩

/-- A request keeps the invariant. -/
lemma Inv.requestService (h : s.Inv cfg) (key : InstanceKey) (major : UInt8) (minor ttl : UInt32) :
    (s.requestService key major minor ttl).Inv cfg := by
  unfold FindPhase.requestService
  split_ifs with hkey
  · exact h
  · refine ⟨fun a => ?_, fun e he => ?_, fun t ht => owned_new (h.timersOwned t ht) key,
      fun other => ?_, h.schedule, h.ids, h.idsNodup⟩
    · dsimp only
      rw [Function.update_apply]
      split_ifs
      · exact Nat.zero_le _
      · exact h.bounded a
    · rcases (s.requested.mem_insert_iff (h := s.fresh) hkey).mp he with rfl | he
      · exact ⟨Nat.lt_succ_self _, Function.update_self _ _ _⟩
      · exact owned_new h.owned key e he
    · have hspent := h.spent other
      simp only [potential, remaining_new, Function.update_apply] at hspent ⊢
      split_ifs with heq
      · subst heq
        rw [Nat.mul_add_one]
        omega
      · exact hspent

/-- A counter that grows leaves less to be sent. -/
lemma remaining_le {memory memory' : FindMemory} (cfg : FindConfig) (t : Finset ℕ)
    (h : ∀ a, (memory a).sentCounter.toNat ≤ (memory' a).sentCounter.toNat) :
    memory'.remaining cfg t ≤ memory.remaining cfg t :=
  Finset.sum_le_sum fun a _ => Nat.sub_le_sub_left (h a) _

/-- The limit of the counter, computed with 8 bits. -/
lemma toNat_limit (hmax : cfg.repetitionsMax ≠ 255) : (cfg.repetitionsMax + 1).toNat = cfg.limit :=
  toNat_succ_iff.mpr hmax

/-- A request that is answered is at the limit, and the others stay what they are. -/
lemma answered_eq (hmax : cfg.repetitionsMax ≠ 255) (key : InstanceKey) :
    ∃ memory : FindMemory, s.answered cfg key = { s with memory } ∧
      ∀ a, memory a = s.memory a ∨ (memory a).sentCounter.toNat = cfg.limit := by
  unfold answered
  cases s.findRequest key with
  | none => exact ⟨s.memory, rfl, fun a => Or.inl rfl⟩
  | some address =>
    refine ⟨_, rfl, fun a => ?_⟩
    by_cases ha : a = address
    · subst ha
      right
      rw [FindMemory.answer, Function.update_self]
      exact toNat_limit hmax
    · exact Or.inl (Function.update_of_ne ha _ _)

/-- An answer keeps the invariant. -/
lemma Inv.answered (h : s.Inv cfg) (hmax : cfg.repetitionsMax ≠ 255) (key : InstanceKey) :
    (s.answered cfg key).Inv cfg := by
  obtain ⟨memory, heq, hmemory⟩ := answered_eq (s := s) hmax key
  rw [heq]
  refine ⟨fun a => ?_, h.owned, h.timersOwned, fun other => ?_, h.schedule, h.ids, h.idsNodup⟩
  · rcases hmemory a with ha | ha
    · exact (congrArg (fun r => r.sentCounter.toNat) ha).le.trans (h.bounded a)
    · exact ha.le
  · refine le_trans (Nat.add_le_add_left (remaining_le _ _ fun a => ?_) _) (h.spent other)
    rcases hmemory a with ha | ha
    · exact (congrArg (fun r => r.sentCounter.toNat) ha).ge
    · exact (h.bounded a).trans ha.ge

/-- The counters of some requests are set to zero. -/
lemma foldl_resetCounter (es : List RequestRef) (memory : FindMemory) (a : ℕ) :
    (es.foldl (fun memory e => resetCounter memory e.2) memory) a =
      if a ∈ es.map Prod.snd then { memory a with sentCounter := 0 } else memory a := by
  induction es generalizing memory with
  | nil => rfl
  | cons e es ih =>
    rw [List.foldl_cons, ih, List.map_cons]
    by_cases ha : a = e.2
    · subst ha
      simp [resetCounter]
    · have hreset : resetCounter memory e.2 a = memory a := Function.update_of_ne ha _ _
      simp only [hreset, List.mem_cons, ha, false_or]

/-- Of the requests for a service instance at most one is set back. -/
lemma remaining_reset {cfg : FindConfig} (howned : Owned s.createdFor s.next s.requested.entries)
    (key : InstanceKey) :
    FindMemory.remaining cfg
        (s.requested.entries.foldl (fun memory e => resetCounter memory e.2) s.memory)
        (addresses s.createdFor s.next key) ≤
      s.memory.remaining cfg (addresses s.createdFor s.next key) +
        cfg.limit * if key ∈ s.requested.keys then 1 else 0 := by
  have hother {a : ℕ} (ha : a ∈ addresses s.createdFor s.next key)
      (hne : (key, a) ∉ s.requested.entries) :
      s.requested.entries.foldl (fun memory e => resetCounter memory e.2) s.memory a = s.memory a := by
    rw [foldl_resetCounter, if_neg]
    intro haddress
    obtain ⟨e, he, rfl⟩ := List.mem_map.mp haddress
    have hkey : e.1 = key := (howned e he).2.symm.trans (Finset.mem_filter.mp ha).2
    exact hne (hkey ▸ he)
  by_cases hkey : key ∈ s.requested.keys
  · obtain ⟨e, he, rfl⟩ := s.requested.mem_keys_iff.mp hkey
    obtain ⟨hlt, howner⟩ := howned e he
    have hmem : e.2 ∈ addresses s.createdFor s.next e.1 := by simp [addresses, hlt, howner]
    have hsum := FindMemory.sum_add_of_eq_off hmem
      (f := fun a => cfg.limit - (s.memory a).sentCounter.toNat)
      (g := fun a => cfg.limit - (s.requested.entries.foldl
        (fun memory e => resetCounter memory e.2) s.memory a).sentCounter.toNat)
      fun a ha hne => by
        rw [hother ha]
        intro hmem'
        have heq := List.inj_on_of_nodup_map s.requested.keys_nodup hmem' he rfl
        exact hne (congrArg Prod.snd heq)
    rw [if_pos hkey, FindMemory.remaining, FindMemory.remaining]
    omega
  · rw [if_neg hkey, Nat.mul_zero, Nat.add_zero]
    refine Finset.sum_le_sum fun a ha => ?_
    rw [hother ha fun hmem => hkey (s.requested.mem_keys_iff.mpr ⟨_, hmem, rfl⟩)]

/-- The start keeps the invariant. -/
lemma Inv.start (h : s.Inv cfg) : s.start.Inv cfg := by
  unfold FindPhase.start
  split_ifs
  · refine ⟨fun a => ?_, h.owned, h.timersOwned, fun key => ?_, h.schedule, h.ids, h.idsNodup⟩
    · dsimp only
      rw [foldl_resetCounter]
      split_ifs
      · exact Nat.zero_le _
      · exact h.bounded a
    · refine le_trans (Nat.add_le_add_left (remaining_reset h.owned key) _) ?_
      have hspent := h.spent key
      unfold potential at hspent
      dsimp only
      rw [Nat.mul_add]
      omega
  · exact h

/-- What sending finds changes. -/
lemma sendFinds_spec (h : s.Inv cfg) (hmax : cfg.repetitionsMax ≠ 255) {requests : Requests}
    (howned : Owned s.createdFor s.next requests.entries) {fuel : ℕ}
    (hsend : s.sendFinds cfg requests fuel = some s') :
    ∃ memory sent, s' = { s with memory, sent } ∧ memory.Bounded cfg.toFindConfig ∧ ∀ key,
      entriesFor key sent + memory.remaining cfg.toFindConfig (addresses s.createdFor s.next key) ≤
        cfg.limit * s.started key := by
  obtain ⟨result, hreturns, rfl⟩ := Option.map_eq_some_iff.mp hsend
  obtain ⟨result', hreturns', hbounded, hspent⟩ :=
    @fill_spends _ s.requested.keys _ _ _ _ hmax h.bounded howned
  obtain rfl := (Loop.stable_run _).unique ⟨fuel, hreturns⟩ hreturns'
  refine ⟨_, _, rfl, hbounded, fun key => ?_⟩
  rw [entriesFor_append, Nat.add_assoc, hspent key]
  exact h.spent key

/-- The new finds own their requests. -/
lemma owned_newFinds (h : s.Inv cfg) : Owned s.createdFor s.next s.newFinds.entries :=
  fun e he => h.owned e (List.mem_of_mem_filter he)

/-- An expiry of the debounce timer keeps the invariant. -/
lemma Inv.debounce (h : s.Inv cfg) (hmax : cfg.repetitionsMax ≠ 255) {fuel : ℕ}
    (hstep : s.onFindDebounceTimerExpired cfg fuel = some s') : s'.Inv cfg := by
  unfold onFindDebounceTimerExpired at hstep
  split_ifs at hstep
  · exact Option.some.inj hstep ▸ h
  · obtain ⟨s₁, hsend, rfl⟩ := Option.map_eq_some_iff.mp hstep
    obtain ⟨memory, sent, rfl, hbounded, hspent⟩ := sendFinds_spec h hmax (owned_newFinds h) hsend
    refine ⟨hbounded, h.owned, ?_, hspent, ?_, ?_, ?_⟩
    · exact List.forall_mem_append.mpr
        ⟨h.timersOwned, List.forall_mem_singleton.mpr (owned_newFinds h)⟩
    · refine List.forall_mem_append.mpr ⟨h.schedule, List.forall_mem_singleton.mpr ⟨le_rfl, ?_, ?_⟩⟩
      · exact Nat.le_add_left 1 _
      · exact (UInt32.mul_one _).symm
    · refine List.forall_mem_append.mpr ⟨fun t ht => Nat.lt_succ_of_lt (h.ids t ht), ?_⟩
      exact List.forall_mem_singleton.mpr (Nat.lt_succ_self _)
    · rw [List.map_append]
      refine List.nodup_append.mpr ⟨h.idsNodup, List.nodup_singleton _, fun a ha b hb => ?_⟩
      obtain ⟨t, ht, rfl⟩ := List.mem_map.mp ha
      rw [List.map_singleton, List.mem_singleton] at hb
      exact hb ▸ (h.ids t ht).ne

/-- A timer that is started again is at the next repetition. -/
lemma OnSchedule.next (hmax : cfg.repetitionsMax ≠ 255) {t : FindTimer} (h : OnSchedule cfg t)
    (hle : t.repetition ≤ cfg.repetitionsMax) : OnSchedule cfg t.next := by
  have hlt : t.repetition.toNat < cfg.limit := Nat.lt_succ_of_le (UInt8.le_iff_toNat_le.mp hle)
  have hsucc := @FindMemory.toNat_succ_of_lt cfg.toFindConfig hmax _ hlt
  obtain ⟨n, hn⟩ := Nat.exists_eq_add_of_le' h.pos
  refine ⟨?_, ?_, ?_⟩
  · change 1 ≤ (t.repetition + 1).toNat
    omega
  · change (t.repetition + 1).toNat ≤ cfg.limit
    omega
  · change t.lastDelay * 2 = cfg.repetitionsBaseDelay * 2 ^ ((t.repetition + 1).toNat - 1)
    rw [h.delay, hsucc, hn, Nat.add_sub_cancel, Nat.add_sub_cancel, pow_succ, UInt32.mul_assoc]

/-- An expiry of a repetition timer keeps the invariant. -/
lemma Inv.repetition (h : s.Inv cfg) (hmax : cfg.repetitionsMax ≠ 255) {t : FindTimer}
    (ht : t ∈ s.timers) {fuel : ℕ}
    (hstep : s.onFindRepetitionPhaseTimerExpired cfg t fuel = some s') : s'.Inv cfg := by
  unfold onFindRepetitionPhaseTimerExpired at hstep
  split_ifs at hstep with hle
  · obtain ⟨s₁, hsend, rfl⟩ := Option.map_eq_some_iff.mp hstep
    obtain ⟨memory, sent, rfl, hbounded, hspent⟩ := sendFinds_spec h hmax (h.timersOwned t ht) hsend
    have hid : ∀ t' : FindTimer, (if t'.id = t.id then t.next else t').id = t'.id := fun t' => by
      split_ifs with heq
      · exact heq.symm
      · rfl
    refine ⟨hbounded, h.owned, ?_, hspent, ?_, ?_, ?_⟩
    · refine List.forall_mem_map.mpr fun t' ht' => ?_
      split_ifs
      · exact h.timersOwned t ht
      · exact h.timersOwned t' ht'
    · refine List.forall_mem_map.mpr fun t' ht' => ?_
      split_ifs
      · exact (h.schedule t ht).next hmax hle
      · exact h.schedule t' ht'
    · refine List.forall_mem_map.mpr fun t' ht' => ?_
      rw [hid]
      exact h.ids t' ht'
    · rw [List.map_map]
      exact (List.map_congr_left fun t' _ => hid t') ▸ h.idsNodup
  · obtain rfl := Option.some.inj hstep
    have hsub : ∀ t' ∈ s.timers.filter fun t' => t'.id ≠ t.id, t' ∈ s.timers :=
      fun t' ht' => List.mem_of_mem_filter ht'
    exact ⟨h.bounded, h.owned, fun t' ht' => h.timersOwned t' (hsub t' ht'), h.spent,
      fun t' ht' => h.schedule t' (hsub t' ht'), fun t' ht' => h.ids t' (hsub t' ht'),
      h.idsNodup.sublist (List.filter_sublist.map _)⟩

/-- Every step keeps the invariant. -/
lemma Inv.step (h : s.Inv cfg) (hmax : cfg.repetitionsMax ≠ 255) (a : FindAction) :
    (FindPhase.step cfg s a).Inv cfg := by
  cases a with
  | requestService key major minor ttl => exact h.requestService key major minor ttl
  | releaseService key =>
    exact ⟨h.bounded, fun e he => h.owned e (List.mem_of_mem_filter he), h.timersOwned, h.spent,
      h.schedule, h.ids, h.idsNodup⟩
  | answered key => exact h.answered hmax key
  | start => exact h.start
  | stop =>
    exact ⟨h.bounded, h.owned, h.timersOwned, h.spent, h.schedule, h.ids, h.idsNodup⟩
  | debounce fuel =>
    rw [FindPhase.step]
    cases hstep : s.onFindDebounceTimerExpired cfg fuel with
    | none => exact h
    | some s' => exact h.debounce hmax hstep
  | repetition i fuel =>
    rw [FindPhase.step]
    cases ht : s.timers[i]? with
    | none => exact h
    | some t =>
      rw [Option.bind_some]
      cases hstep : s.onFindRepetitionPhaseTimerExpired cfg t fuel with
      | none => exact h
      | some s' => exact h.repetition hmax (List.mem_of_getElem? ht) hstep

/-- The invariant holds at the start. -/
lemma inv_init (cfg : FindPhaseConfig) : init.Inv cfg where
  bounded _ := Nat.zero_le _
  owned _ he := absurd he List.not_mem_nil
  timersOwned _ ht := absurd ht List.not_mem_nil
  spent _ := Nat.zero_le _
  schedule _ ht := absurd ht List.not_mem_nil
  ids _ ht := absurd ht List.not_mem_nil
  idsNodup := .nil

/-- Finds are always sent at some time. -/
lemma Inv.exists_sendFinds (h : s.Inv cfg) (hmax : cfg.repetitionsMax ≠ 255) {requests : Requests}
    (howned : Owned s.createdFor s.next requests.entries) :
    ∃ fuel s', s.sendFinds cfg requests fuel = some s' := by
  obtain ⟨result, ⟨fuel, hfuel⟩, -⟩ := @fill_spends _ s.requested.keys _ _ _ _ hmax h.bounded howned
  exact ⟨fuel, _, by rw [sendFinds, hfuel]; rfl⟩

/-! ## The stages of a request -/

/-- How far the finds for a request have come: none was sent and no timer has it, or it has a timer and
got as many finds as that had expiries, or no more are sent. -/
def Stage (cfg : FindPhaseConfig) (memory : FindMemory) (timers : List FindTimer) (e : RequestRef) :
    Prop :=
  ((memory e.2).sentCounter = 0 ∧ ∀ t ∈ timers, e ∉ t.requests.entries) ∨
    (∃ t ∈ timers, e ∈ t.requests.entries ∧ (memory e.2).sentCounter = t.repetition) ∨
    (memory e.2).sentCounter.toNat = cfg.limit

/-- All open requests are in a stage, and no two timers have the same request. -/
structure Staged (cfg : FindPhaseConfig) (s : FindPhase) : Prop where
  running : s.isSuspended = false
  stage : ∀ e ∈ s.requested.entries, Stage cfg s.memory s.timers e
  apart : ∀ t ∈ s.timers, ∀ t' ∈ s.timers, ∀ e ∈ t.requests.entries, e ∈ t'.requests.entries →
    t.id = t'.id

/-- If a message has room for all requested service instances, each pending request gets one entry. -/
lemma sendFinds_exact (hsmall : s.requested.entries.length ≤ cfg.pageSize) {requests : Requests}
    {fuel : ℕ} (hsend : s.sendFinds cfg requests fuel = some s') :
    ∃ sent, s' = { s with
      memory := s.memory.countAll
        (pendingRequests cfg.toFindConfig s.requested.keys requests s.memory)
      sent } := by
  obtain ⟨result, hreturns, rfl⟩ := Option.map_eq_some_iff.mp hsend
  have hlength : (pendingRequests cfg.toFindConfig s.requested.keys requests s.memory).length ≤
      cfg.pageSize := by
    refine le_trans ?_ (s.requested.card_keys.le.trans hsmall)
    have hnodup : ((pendingRequests cfg.toFindConfig s.requested.keys requests s.memory).map
        Prod.fst).Nodup := requests.keys_nodup.sublist (List.filter_sublist.map Prod.fst)
    rw [← List.length_map Prod.fst, ← List.toFinset_card_of_nodup hnodup]
    refine Finset.card_le_card fun key hkey => ?_
    obtain ⟨e, he, rfl⟩ := List.mem_map.mp (List.mem_toFinset.mp hkey)
    exact (mem_pendingEntries_iff.mp he).2.1
  have hround := @findRound_eq cfg.toFindConfig s.requested.keys requests s.memory []
  rw [if_pos hlength] at hround
  obtain rfl := (Loop.stable_run _).unique ⟨fuel, hreturns⟩ (Loop.returns_of_inr hround)
  exact ⟨_, rfl⟩

/-- A request that is not among some others, or has no more finds to be sent, gets none. -/
lemma countAll_pending_of_not {requests : Requests} {e : RequestRef} (h : s.Inv cfg)
    (howned : Owned s.createdFor s.next requests.entries) (he : e ∈ s.requested.entries)
    (hnot : e ∈ requests.entries → (s.memory e.2).sentCounter.toNat = cfg.limit) :
    s.memory.countAll (pendingRequests cfg.toFindConfig s.requested.keys requests s.memory) e.2 =
      s.memory e.2 := by
  refine s.memory.countAll_of_not_mem fun haddress => ?_
  obtain ⟨d, hd, hde⟩ := List.mem_map.mp haddress
  obtain ⟨hmem, -, hcounter⟩ := mem_pendingEntries_iff.mp hd
  have hkey : d.1 = e.1 := by rw [← (howned d hmem).2, hde, (h.owned e he).2]
  obtain rfl : d = e := Prod.ext hkey hde
  exact hcounter (hnot hmem)

/-- A request among some others that has finds to be sent gets one. -/
lemma countAll_pending_of_lt {requests : Requests} {e : RequestRef} (he : e ∈ s.requested.entries)
    (hmem : e ∈ requests.entries) (hne : (s.memory e.2).sentCounter.toNat ≠ cfg.limit) :
    (s.memory.countAll (pendingRequests cfg.toFindConfig s.requested.keys requests s.memory)
      e.2).sentCounter = (s.memory e.2).sentCounter + 1 := by
  rw [s.memory.countAll_of_mem (pendingRequests_nodup s.memory)]
  exact mem_pendingEntries_iff.mpr ⟨hmem, s.requested.mem_keys_iff.mpr ⟨e, he, rfl⟩, hne⟩

/-- A request keeps the stages. -/
lemma Staged.requestService (h : s.Staged cfg) (hinv : s.Inv cfg) (key : InstanceKey) (major : UInt8)
    (minor ttl : UInt32) : (s.requestService key major minor ttl).Staged cfg := by
  unfold FindPhase.requestService
  split_ifs with hkey
  · exact h
  · refine ⟨h.running, fun e he => ?_, h.apart⟩
    rcases (s.requested.mem_insert_iff (h := s.fresh) hkey).mp he with rfl | he
    · refine Or.inl ⟨?_, fun t ht hmem => ?_⟩
      · dsimp only
        rw [Function.update_self]
      · exact Nat.lt_irrefl _ (hinv.timersOwned t ht _ hmem).1
    · have hstage := h.stage e he
      unfold Stage at hstage ⊢
      dsimp only
      rwa [Function.update_of_ne (s.fresh e he).ne]

/-- An answer keeps the stages. -/
lemma Staged.answered (h : s.Staged cfg) (hmax : cfg.repetitionsMax ≠ 255) (key : InstanceKey) :
    (s.answered cfg key).Staged cfg := by
  obtain ⟨memory, heq, hmemory⟩ := answered_eq (s := s) hmax key
  rw [heq]
  refine ⟨h.running, fun e he => ?_, h.apart⟩
  rcases hmemory e.2 with hsame | hlimit
  · have hstage := h.stage e he
    unfold Stage at hstage ⊢
    dsimp only
    rwa [hsame]
  · exact Or.inr (Or.inr hlimit)

/-- A request that was never sent is below the limit. -/
lemma limit_ne_zero (cfg : FindConfig) : (0 : UInt8).toNat ≠ cfg.limit := (Nat.succ_ne_zero _).symm

/-- A timer on schedule has a repetition left. -/
lemma OnSchedule.ne_zero {t : FindTimer} (h : OnSchedule cfg t) : t.repetition ≠ 0 := by
  intro h0
  have hpos := h.pos
  rw [h0] at hpos
  exact absurd hpos (by decide)

/-- The new finds are the requests that were never sent. -/
lemma mem_newFinds_iff {e : RequestRef} :
    e ∈ s.newFinds.entries ↔ e ∈ s.requested.entries ∧ (s.memory e.2).sentCounter = 0 := by
  rw [newFinds, Requests.filter, List.mem_filter, decide_eq_true_eq]

/-- An expiry of the debounce timer keeps the stages. -/
lemma Staged.debounce (h : s.Staged cfg) (hinv : s.Inv cfg)
    (hsmall : s.requested.entries.length ≤ cfg.pageSize) {fuel : ℕ}
    (hstep : s.onFindDebounceTimerExpired cfg fuel = some s') : s'.Staged cfg := by
  unfold onFindDebounceTimerExpired at hstep
  split_ifs at hstep
  · exact Option.some.inj hstep ▸ h
  obtain ⟨s₁, hsend, rfl⟩ := Option.map_eq_some_iff.mp hstep
  obtain ⟨sent, rfl⟩ := sendFinds_exact hsmall hsend
  -- a request for which nothing was sent has no timer
  have hnew : ∀ e ∈ s.newFinds.entries, ∀ t ∈ s.timers, e ∉ t.requests.entries := by
    intro e he t ht hmem
    obtain ⟨hreq, hzero⟩ := mem_newFinds_iff.mp he
    rcases h.stage e hreq with ⟨-, hnone⟩ | ⟨t', ht', -, heq⟩ | hlimit
    · exact hnone t ht hmem
    · exact (hinv.schedule t' ht').ne_zero (heq.symm.trans hzero)
    · exact limit_ne_zero cfg.toFindConfig (hzero ▸ hlimit)
  have hsame {e : RequestRef} (he : e ∈ s.requested.entries)
      (hne : (s.memory e.2).sentCounter ≠ 0) :
      s.memory.countAll (pendingRequests cfg.toFindConfig s.requested.keys s.newFinds s.memory) e.2 =
        s.memory e.2 :=
    countAll_pending_of_not hinv (owned_newFinds hinv) he fun hmem =>
      absurd (mem_newFinds_iff.mp hmem).2 hne
  refine ⟨h.running, fun e (he : e ∈ s.requested.entries) => ?_, ?_⟩
  · unfold Stage
    dsimp only
    rcases h.stage e he with ⟨hzero, -⟩ | ⟨t, ht, hmem, heq⟩ | hlimit
    · have hmem := mem_newFinds_iff.mpr ⟨he, hzero⟩
      refine Or.inr (Or.inl ⟨_, List.mem_append_right _ (List.mem_singleton_self _), hmem, ?_⟩)
      refine (countAll_pending_of_lt he hmem ?_).trans (by rw [hzero]; rfl)
      rw [hzero]
      exact limit_ne_zero _
    · rw [hsame he (heq ▸ (hinv.schedule t ht).ne_zero)]
      exact Or.inr (Or.inl ⟨t, List.mem_append_left _ ht, hmem, heq⟩)
    · rw [hsame he fun hzero => limit_ne_zero cfg.toFindConfig (hzero ▸ hlimit)]
      exact Or.inr (Or.inr hlimit)
  · intro t ht t' ht' e he he'
    rcases List.mem_append.mp ht with ht | ht <;> rcases List.mem_append.mp ht' with ht' | ht'
    · exact h.apart t ht t' ht' e he he'
    · rw [List.mem_singleton.mp ht'] at he'
      exact absurd he (hnew e he' t ht)
    · rw [List.mem_singleton.mp ht] at he
      exact absurd he' (hnew e he t' ht')
    · rw [List.mem_singleton.mp ht, List.mem_singleton.mp ht']

/-- An expiry of a repetition timer keeps the stages. -/
lemma Staged.repetition (h : s.Staged cfg) (hinv : s.Inv cfg)
    (hsmall : s.requested.entries.length ≤ cfg.pageSize) {t : FindTimer} (ht : t ∈ s.timers)
    {fuel : ℕ} (hstep : s.onFindRepetitionPhaseTimerExpired cfg t fuel = some s') : s'.Staged cfg := by
  have hid {t' : FindTimer} (ht' : t' ∈ s.timers) (heq : t'.id = t.id) : t' = t :=
    List.inj_on_of_nodup_map hinv.idsNodup ht' ht heq
  unfold onFindRepetitionPhaseTimerExpired at hstep
  split_ifs at hstep with hle
  · obtain ⟨s₁, hsend, rfl⟩ := Option.map_eq_some_iff.mp hstep
    obtain ⟨sent, rfl⟩ := sendFinds_exact hsmall hsend
    refine ⟨h.running, fun e (he : e ∈ s.requested.entries) => ?_, ?_⟩
    · unfold Stage
      dsimp only
      rcases h.stage e he with ⟨hzero, hnone⟩ | ⟨t', ht', hmem, heq⟩ | hlimit
      · rw [countAll_pending_of_not hinv (hinv.timersOwned t ht) he fun hmem =>
          absurd hmem (hnone t ht)]
        refine Or.inl ⟨hzero, List.forall_mem_map.mpr fun t' ht' => ?_⟩
        split_ifs
        · exact hnone t ht
        · exact hnone t' ht'
      · by_cases hsame : t'.id = t.id
        · obtain rfl := hid ht' hsame
          refine Or.inr (Or.inl ⟨t'.next, List.mem_map.mpr ⟨t', ht', if_pos rfl⟩, hmem, ?_⟩)
          rw [countAll_pending_of_lt he hmem, heq]
          · rfl
          · rw [heq]
            exact (Nat.lt_succ_of_le (UInt8.le_iff_toNat_le.mp hle)).ne
        · rw [countAll_pending_of_not hinv (hinv.timersOwned t ht) he fun hmem' =>
            absurd (h.apart t' ht' t ht e hmem hmem') hsame]
          exact Or.inr (Or.inl ⟨t', List.mem_map.mpr ⟨t', ht', if_neg hsame⟩, hmem, heq⟩)
      · rw [countAll_pending_of_not hinv (hinv.timersOwned t ht) he fun _ => hlimit]
        exact Or.inr (Or.inr hlimit)
    · have hold : ∀ t' : FindTimer, t' ∈ s.timers →
          (if t'.id = t.id then t.next else t').id = t'.id ∧
          (if t'.id = t.id then t.next else t').requests = t'.requests := fun t' ht' => by
        split_ifs with heq
        · obtain rfl := hid ht' heq
          exact ⟨rfl, rfl⟩
        · exact ⟨rfl, rfl⟩
      refine List.forall_mem_map.mpr fun t₁ ht₁ => List.forall_mem_map.mpr fun t₂ ht₂ => ?_
      obtain ⟨hid₁, hreq₁⟩ := hold t₁ ht₁
      obtain ⟨hid₂, hreq₂⟩ := hold t₂ ht₂
      rw [hid₁, hid₂, hreq₁, hreq₂]
      exact h.apart t₁ ht₁ t₂ ht₂
  · obtain rfl := Option.some.inj hstep
    refine ⟨h.running, fun e (he : e ∈ s.requested.entries) => ?_, fun t₁ ht₁ t₂ ht₂ =>
      h.apart t₁ (List.mem_of_mem_filter ht₁) t₂ (List.mem_of_mem_filter ht₂)⟩
    rcases h.stage e he with ⟨hzero, hnone⟩ | ⟨t', ht', hmem, heq⟩ | hlimit
    · exact Or.inl ⟨hzero, fun t' ht' => hnone t' (List.mem_of_mem_filter ht')⟩
    · by_cases hsame : t'.id = t.id
      · -- the last expiry of the timer: all finds were sent
        obtain rfl := hid ht' hsame
        refine Or.inr (Or.inr ?_)
        have hlast := (hinv.schedule t' ht').le
        have hgt : ¬ t'.repetition.toNat ≤ cfg.repetitionsMax.toNat :=
          fun hle' => hle (UInt8.le_iff_toNat_le.mpr hle')
        rw [FindConfig.limit] at hlast ⊢
        dsimp only
        rw [heq]
        omega
      · exact Or.inr (Or.inl ⟨t', List.mem_filter.mpr ⟨ht', by simpa using hsame⟩, hmem, heq⟩)
    · exact Or.inr (Or.inr hlimit)

/-- Every step keeps the stages, if the service discovery is not suspended and a message has room for
all requested service instances. -/
lemma Staged.step (h : s.Staged cfg) (hinv : s.Inv cfg) (hmax : cfg.repetitionsMax ≠ 255)
    (hsmall : s.requested.entries.length ≤ cfg.pageSize) {a : FindAction} (ha : a ≠ .stop) :
    (FindPhase.step cfg s a).Staged cfg := by
  cases a with
  | requestService key major minor ttl => exact h.requestService hinv key major minor ttl
  | releaseService key =>
    exact ⟨h.running, fun e he => h.stage e (List.mem_of_mem_filter he), h.apart⟩
  | answered key => exact h.answered hmax key
  | start =>
    rw [FindPhase.step, FindPhase.start, h.running, if_neg Bool.false_ne_true]
    exact h
  | stop => exact absurd rfl ha
  | debounce fuel =>
    rw [FindPhase.step]
    cases hstep : s.onFindDebounceTimerExpired cfg fuel with
    | none => exact h
    | some s' => exact h.debounce hinv hsmall hstep
  | repetition i fuel =>
    rw [FindPhase.step]
    cases ht : s.timers[i]? with
    | none => exact h
    | some t =>
      rw [Option.bind_some]
      cases hstep : s.onFindRepetitionPhaseTimerExpired cfg t fuel with
      | none => exact h
      | some s' => exact h.repetition hinv hsmall (List.mem_of_getElem? ht) hstep

/-! ## Runs -/

/-- **For a service instance at most `repetitions_max_ + 1` finds are sent for each time that they are
started, by a new request or by resuming. A timer doubles its delay at each expiry, and has at most
`repetitions_max_ + 1` of them; its handler always ends, and so does that of the debounce timer. If the
service discovery is never stopped and a message has always room for all requested service instances,
then every open request is in a stage: it got one find at each expiry, until it got all of them or was
answered.**

**Proof sketch.** What may still be sent for the requests of a service instance is a potential: a find
takes one from it, and only a new request and resuming add to it. The stages are an invariant of their
own: a new request has no timer, so it gets into one timer only. -/
theorem finds_run (cfg : FindPhaseConfig) (hmax : cfg.repetitionsMax ≠ 255) (as : List FindAction) :
    let s := Runs.run (step cfg) init as
    (∀ key, entriesFor key s.sent ≤ cfg.limit * s.started key) ∧
    (∀ t ∈ s.timers, OnSchedule cfg t) ∧
    (∃ fuel s', s.onFindDebounceTimerExpired cfg fuel = some s') ∧
    (∀ t ∈ s.timers, ∃ fuel s', s.onFindRepetitionPhaseTimerExpired cfg t fuel = some s') ∧
    (Runs.Along (step cfg) (fun s a => a ≠ .stop ∧ s.requested.entries.length ≤ cfg.pageSize) init as →
      ∀ e ∈ s.requested.entries, Stage cfg s.memory s.timers e) := by
  intro s
  have hinv : s.Inv cfg := Runs.inv_run (I := Inv cfg) (P := fun _ => True)
    (fun h _ => h.step hmax _) (inv_init cfg) fun _ _ => trivial
  refine ⟨fun key => le_trans (Nat.le_add_right _ _) (hinv.spent key), hinv.schedule, ?_,
    fun t ht => ?_, fun halong => ?_⟩
  · obtain ⟨fuel, s', hsend⟩ := hinv.exists_sendFinds hmax (owned_newFinds hinv)
    by_cases hnil : s.newFinds.entries = []
    · exact ⟨fuel, s, if_pos hnil⟩
    · exact ⟨fuel, _, by rw [onFindDebounceTimerExpired, if_neg hnil, hsend]; rfl⟩
  · obtain ⟨fuel, s', hsend⟩ := hinv.exists_sendFinds hmax (hinv.timersOwned t ht)
    by_cases hle : t.repetition ≤ cfg.repetitionsMax
    · exact ⟨fuel, _, by rw [onFindRepetitionPhaseTimerExpired, if_pos hle, hsend]; rfl⟩
    · exact ⟨fuel, _, if_neg hle⟩
  · have hstaged : s.Inv cfg ∧ s.Staged cfg :=
      Runs.inv_run_of_along (I := fun s => s.Inv cfg ∧ s.Staged cfg)
        (fun h hgood => ⟨h.1.step hmax _, h.2.step h.1 hmax hgood.2 hgood.1⟩)
        ⟨inv_init cfg, rfl, fun _ he => absurd he List.not_mem_nil,
          fun _ ht => absurd ht List.not_mem_nil⟩ halong
    exact hstaged.2.stage

/-- Two requests; one is answered after the first find, and the other one gets four finds. -/
theorem finds_run_answered :
    let cfg : FindPhaseConfig := ⟨⟨false, 3⟩, 200⟩
    let as : List FindAction := [.requestService (1, 1) 1 0 3, .requestService (2, 1) 1 0 3,
      .debounce 2, .answered (1, 1), .repetition 0 2, .repetition 0 2, .repetition 0 2, .repetition 0 2]
    let s := Runs.run (step cfg) init as
    (∀ key, entriesFor key s.sent ≤ cfg.limit * s.started key) ∧
    (∀ t ∈ s.timers, OnSchedule cfg t) ∧
    (∃ fuel s', s.onFindDebounceTimerExpired cfg fuel = some s') ∧
    (∀ t ∈ s.timers, ∃ fuel s', s.onFindRepetitionPhaseTimerExpired cfg t fuel = some s') ∧
    (Runs.Along (step cfg) (fun s a => a ≠ .stop ∧ s.requested.entries.length ≤ cfg.pageSize) init as →
      ∀ e ∈ s.requested.entries, Stage cfg s.memory s.timers e) :=
  finds_run ⟨⟨false, 3⟩, 200⟩ (by decide) _

example :
    let s := Runs.run (step ⟨⟨false, 3⟩, 200⟩) init
      [.requestService (1, 1) 1 0 3, .requestService (2, 1) 1 0 3, .debounce 2, .answered (1, 1),
        .repetition 0 2, .repetition 0 2, .repetition 0 2, .repetition 0 2]
    (entriesFor (1, 1) s.sent, entriesFor (2, 1) s.sent, s.timers.length) = (1, 4, 0) := by
  decide

end FindPhase

end Vsomeip.Sd
