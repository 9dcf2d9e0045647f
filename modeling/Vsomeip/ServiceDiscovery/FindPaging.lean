import Mathlib.Data.List.Basic
import Mathlib.Data.Finset.Basic
import Mathlib.Data.UInt
import Vsomeip.Lib.Loop
import Vsomeip.ServiceDiscovery.Message

set_option relaxedAutoImplicit false
set_option autoImplicit false

/-!
# FindService entries

`service_discovery_impl::fill_message_with_find_entries` puts a FindService entry into a message for
each of the requests it is given, and counts for each request how often that was done. A request
whose counter has come to `repetitions_max_ + 1` is left out. If a message is full, another one is
created, and the requests are gone through again from the first one.

A request is an object that is shared by the table of requests and by the timers, so the counters are
kept in a memory from addresses to objects.

## Main definitions

* `Vsomeip.Sd.FindRequest`, `Vsomeip.Sd.Requests` — `request` and `requests_t`.
* `Vsomeip.Sd.insertFindEntries`, `Vsomeip.Sd.fillMessageWithFindEntries` — the functions.
* `Vsomeip.Sd.FindsOnce` — each request that is due has one entry, and is counted once.
* `Vsomeip.Sd.FitsPages` — the condition on the counters.
* `Vsomeip.Sd.OrderlyFinds` — the calls in the life of the requests, all under the condition.

## Main results

* `Vsomeip.Sd.findPaging` — a call does what it should exactly if the counters meet the condition,
  and a request is sent `repetitions_max_ + 1` times at most if they do in all calls.
-/

namespace Vsomeip.Sd

/-- `request`. -/
structure FindRequest where
  major : UInt8
  minor : UInt32
  ttl : UInt32
  sentCounter : UInt8
deriving DecidableEq

/-- The requests that exist, by their addresses. -/
abbrev FindMemory : Type := ℕ → FindRequest

/-- A place in a map of requests: service, instance and the address of the request. -/
abbrev RequestRef : Type := (UInt16 × UInt16) × ℕ

/-- `requests_t`: a map with an ordered key, in the order in which it is traversed. Each request was
created for one service instance. -/
structure Requests where
  entries : List RequestRef
  sorted : entries.Pairwise fun a b => a.1.1 < b.1.1 ∨ a.1.1 = b.1.1 ∧ a.1.2 < b.1.2
  distinct : (entries.map Prod.snd).Nodup

/-- `reliable_`, which decides on `max_message_size_`, and `repetitions_max_`. -/
structure FindConfig where
  reliable : Bool
  repetitionsMax : UInt8

namespace FindConfig

/-- `max_message_size_`: `VSOMEIP_MAX_TCP_SD_PAYLOAD` or `VSOMEIP_MAX_UDP_SD_PAYLOAD`. -/
def maxMessageSize (cfg : FindConfig) : ℕ := if cfg.reliable then 4075 else 1380

/-- The number of entries for which a message has room. -/
def pageSize (cfg : FindConfig) : ℕ := cfg.maxMessageSize / MessageImpl.sdEntrySize

/-- `repetitions_max_ + 1`, an `int`. -/
def limit (cfg : FindConfig) : ℕ := cfg.repetitionsMax.toNat + 1

end FindConfig

/-- The entry for a request. -/
def FindRequest.entry (r : FindRequest) (key : UInt16 × UInt16) : ServiceentryImpl :=
  { EntryImpl.init with
    type := .findService, service := key.1, instance_ := key.2, majorVersion := r.major,
    minorVersion := r.minor, ttl := r.ttl }

/-- The counter of a request is increased; it has eight bits. -/
def FindMemory.count (memory : FindMemory) (address : ℕ) : FindMemory :=
  Function.update memory address
    { memory address with sentCounter := (memory address).sentCounter + 1 }

/-- What `insert_find_entries` leaves behind: the memory, the entries of the message, `_size` and
`_done`. -/
structure FindPage where
  memory : FindMemory
  message : List ServiceentryImpl
  size : ℕ
  done : Bool

/-- The state of the loop in `fill_message_with_find_entries`. -/
structure FindLoop where
  memory : FindMemory
  messages : List (List ServiceentryImpl)
  start : ℕ

section Functions

variable (cfg : FindConfig) (requested : Finset (UInt16 × UInt16))

/-- `insert_find_entries` from a place in the map on. The instances in `requested` are those that are
in `requested_`. -/
def insertFindEntries (start : ℕ) : List RequestRef → ℕ → ℕ → FindMemory → List ServiceentryImpl →
    FindPage
  | [], _, size, memory, message => ⟨memory, message, size, true⟩
  | (key, address) :: rest, i, size, memory, message =>
    -- `release_service` may have been called
    if key ∈ requested then
      if (memory address).sentCounter.toNat ≠ cfg.limit then
        if i ≥ start then
          if size + MessageImpl.sdEntrySize ≤ cfg.maxMessageSize then
            insertFindEntries start rest (i + 1) (size + MessageImpl.sdEntrySize)
              (memory.count address) (message ++ [(memory address).entry key])
          else ⟨memory, message, size, false⟩
        else insertFindEntries start rest (i + 1) size memory message
      else insertFindEntries start rest (i + 1) size memory message
    else insertFindEntries start rest i size memory message

/-- A round of the loop in `fill_message_with_find_entries`. What is added to `its_start` is lost: the
loop ends, or `its_start` is set back to zero. -/
def findRound (requests : Requests) (s : FindLoop) :
    FindLoop ⊕ (FindMemory × List (List ServiceentryImpl)) :=
  let page := insertFindEntries cfg requested s.start requests.entries 0 0 s.memory []
  if page.done then .inr (page.memory, s.messages ++ [page.message])
  else .inl { memory := page.memory, messages := s.messages ++ [page.message], start := 0 }

/-- `fill_message_with_find_entries`: the memory and the messages. -/
def fillMessageWithFindEntries (requests : Requests) (memory : FindMemory) :
    ℕ → Option (FindMemory × List (List ServiceentryImpl)) :=
  Loop.run (findRound cfg requested requests) { memory, messages := [], start := 0 }

/-- A request is due: it is still requested, and not sent `repetitions_max_ + 1` times. -/
def FindDue (memory : FindMemory) (e : RequestRef) : Prop :=
  e.1 ∈ requested ∧ (memory e.2).sentCounter.toNat < cfg.limit

instance (memory : FindMemory) (e : RequestRef) : Decidable (FindDue cfg requested memory e) :=
  inferInstanceAs (Decidable (_ ∧ _))

/-- The requests that are due. -/
def dueRequests (requests : Requests) (memory : FindMemory) : List RequestRef :=
  requests.entries.filter fun e => FindDue cfg requested memory e

/-- The call ends, the messages have one entry for each request that is due and no other one, and each
of these requests is counted once. -/
def FindsOnce (requests : Requests) (memory : FindMemory) : Prop :=
  ∃ memory' messages,
    Loop.Returns (fillMessageWithFindEntries cfg requested requests memory) (memory', messages) ∧
      messages.flatten.Perm
        ((dueRequests cfg requested requests memory).map fun e => (memory e.2).entry e.1) ∧
      ∀ e ∈ dueRequests cfg requested requests memory,
        (memory' e.2).sentCounter.toNat = (memory e.2).sentCounter.toNat + 1

/-- If a list is cut into pages of a size, all elements have a property that do not stand on the last
page. -/
def BeforeLastPage {α : Type} (size : ℕ) (l : List α) (P : α → Prop) : Prop :=
  ∀ i a, l[i]? = some a → (i / size + 1) * size < l.length → P a

/-- No counter is beyond the limit or at its own last value, and a message that is not the last one
is filled with requests that are sent for the last time. -/
structure FitsPages (requests : Requests) (memory : FindMemory) : Prop where
  counted : ∀ e ∈ requests.entries, e.1 ∈ requested →
    (memory e.2).sentCounter.toNat ≤ cfg.limit
  unwrapped : ∀ e ∈ dueRequests cfg requested requests memory, (memory e.2).sentCounter ≠ 255
  paged : BeforeLastPage cfg.pageSize (dueRequests cfg requested requests memory)
    fun e => (memory e.2).sentCounter = cfg.repetitionsMax

end Functions

/-! ## The life of requests -/

/-- `process_serviceentry` for an offer of the requested service, or for its end: no more entries are
needed. -/
def FindMemory.answer (cfg : FindConfig) (memory : FindMemory) (address : ℕ) : FindMemory :=
  Function.update memory address
    { memory address with sentCounter := cfg.repetitionsMax + 1 }

/-- What happens to the requests: they are put into messages when a timer expires, or an entry of
their service is received. -/
inductive FindEvent
  | fill (requests : Requests) (requested : Finset (UInt16 × UInt16))
      (messages : List (List ServiceentryImpl))
  | answered (address : ℕ)

/-- The number of entries for a request. -/
def FindEvent.sent (address : ℕ) : FindEvent → ℕ
  | fill requests _ messages =>
    match requests.entries.find? fun e => e.2 = address with
    | some e => messages.flatten.countP fun x => x.service = e.1.1 ∧ x.instance_ = e.1.2
    | none => 0
  | answered _ => 0

/-- How often a request is sent. -/
def timesSent (address : ℕ) (events : List FindEvent) : ℕ :=
  (events.map (FindEvent.sent address)).sum

/-- A history in which the counters meet the condition in every call, and the limit is a number of
eight bits where a counter is set to it. Resuming the service discovery, which sets all counters to
zero to start over, is not part of it. -/
inductive OrderlyFinds (cfg : FindConfig) : FindMemory → List FindEvent → Prop
  | nil (memory : FindMemory) : OrderlyFinds cfg memory []
  | fill {memory memory' : FindMemory} {requests : Requests}
      {requested : Finset (UInt16 × UInt16)} {messages : List (List ServiceentryImpl)}
      {events : List FindEvent} (hfits : FitsPages cfg requested requests memory)
      (hreturns : Loop.Returns (fillMessageWithFindEntries cfg requested requests memory)
        (memory', messages)) (hrest : OrderlyFinds cfg memory' events) :
      OrderlyFinds cfg memory (.fill requests requested messages :: events)
  | answered {memory : FindMemory} {address : ℕ} {events : List FindEvent}
      (hlimit : cfg.repetitionsMax ≠ 255)
      (hrest : OrderlyFinds cfg (memory.answer cfg address) events) :
      OrderlyFinds cfg memory (.answered address :: events)

/-! ## The counters -/

namespace FindMemory

/-- The counters of some requests are increased, one after the other. -/
def countAll (memory : FindMemory) (es : List RequestRef) : FindMemory :=
  es.foldl (fun memory e => memory.count e.2) memory

/-- Counting one request keeps the others. -/
lemma count_of_ne (memory : FindMemory) {address other : ℕ} (h : other ≠ address) :
    memory.count address other = memory other :=
  Function.update_of_ne h _ _

/-- Counting some requests keeps the others. -/
lemma countAll_of_not_mem (memory : FindMemory) {es : List RequestRef} {address : ℕ}
    (h : address ∉ es.map Prod.snd) : memory.countAll es address = memory address := by
  induction es generalizing memory with
  | nil => rfl
  | cons e es ih =>
    rw [List.map_cons, List.mem_cons, not_or] at h
    exact (ih (memory.count e.2) h.2).trans (memory.count_of_ne h.1)

/-- Counting some requests counts each of them once. -/
lemma countAll_of_mem (memory : FindMemory) {es : List RequestRef}
    (hes : (es.map Prod.snd).Nodup) {e : RequestRef} (he : e ∈ es) :
    memory.countAll es e.2 = { memory e.2 with sentCounter := (memory e.2).sentCounter + 1 } := by
  induction es generalizing memory with
  | nil => exact absurd he List.not_mem_nil
  | cons d es ih =>
    rw [List.map_cons, List.nodup_cons] at hes
    have hcons : memory.countAll (d :: es) = (memory.count d.2).countAll es := rfl
    rcases List.mem_cons.mp he with rfl | he
    · rw [hcons, countAll_of_not_mem _ hes.1]
      exact Function.update_self _ _ _
    · have hne : e.2 ≠ d.2 := fun h => hes.1 (h ▸ List.mem_map_of_mem he)
      rw [hcons, ih (memory.count d.2) hes.2 he, memory.count_of_ne hne]

/-- The entry for a request does not depend on its counter. -/
lemma entry_count (memory : FindMemory) (address other : ℕ) (key : UInt16 × UInt16) :
    ((memory.count address) other).entry key = (memory other).entry key := by
  by_cases h : other = address
  · rw [h, count, Function.update_self]
    rfl
  · rw [memory.count_of_ne h]

/-- Counting changes no entry. -/
lemma entry_countAll (memory : FindMemory) (es : List RequestRef) (other : ℕ)
    (key : UInt16 × UInt16) :
    ((memory.countAll es) other).entry key = (memory other).entry key := by
  induction es generalizing memory with
  | nil => rfl
  | cons e es ih => exact (ih (memory.count e.2)).trans (memory.entry_count e.2 other key)

end FindMemory

/-! ## A message -/

section Page

variable {cfg : FindConfig} {requested : Finset (UInt16 × UInt16)}

/-- A page has room for an entry. -/
lemma pageSize_pos (cfg : FindConfig) : 0 < cfg.pageSize := by
  unfold FindConfig.pageSize FindConfig.maxMessageSize MessageImpl.sdEntrySize
  split <;> decide

/-- One entry more fits if the page is not full. -/
lemma room_iff (cfg : FindConfig) (n : ℕ) :
    n * MessageImpl.sdEntrySize + MessageImpl.sdEntrySize ≤ cfg.maxMessageSize ↔
      n < cfg.pageSize := by
  rw [FindConfig.pageSize, Nat.lt_iff_add_one_le, Nat.le_div_iff_mul_le (by decide), Nat.add_one_mul]

/-- The requests of a map for which `insert_find_entries` creates entries if there is room. -/
def pendingEntries (cfg : FindConfig) (requested : Finset (UInt16 × UInt16)) (memory : FindMemory)
    (es : List RequestRef) : List RequestRef :=
  es.filter fun e => e.1 ∈ requested ∧ (memory e.2).sentCounter.toNat ≠ cfg.limit

/-- The entries for some requests. -/
def findEntries (memory : FindMemory) (es : List RequestRef) : List ServiceentryImpl :=
  es.map fun e => (memory e.2).entry e.1

/-- Counting requests changes no find entry. -/
lemma findEntries_countAll (memory : FindMemory) (counted es : List RequestRef) :
    findEntries (memory.countAll counted) es = findEntries memory es :=
  List.map_congr_left fun e _ => memory.entry_countAll counted e.2 e.1

/-- Counting one request changes no find entry. -/
lemma findEntries_count (memory : FindMemory) (address : ℕ) (es : List RequestRef) :
    findEntries (memory.count address) es = findEntries memory es :=
  List.map_congr_left fun e _ => memory.entry_count address e.2 e.1

/-- The entries that are still to be sent. -/
lemma mem_pendingEntries_iff {memory : FindMemory} {es : List RequestRef} {e : RequestRef} :
    e ∈ pendingEntries cfg requested memory es ↔
      e ∈ es ∧ e.1 ∈ requested ∧ (memory e.2).sentCounter.toNat ≠ cfg.limit := by
  rw [pendingEntries, List.mem_filter, decide_eq_true_iff]

/-- The entries that are still to be sent depend on their own counters only. -/
lemma pendingEntries_congr {memory memory' : FindMemory} {es : List RequestRef}
    (h : ∀ e ∈ es, memory' e.2 = memory e.2) :
    pendingEntries cfg requested memory' es = pendingEntries cfg requested memory es :=
  List.filter_congr fun e he => by rw [h e he]

/-- A message is filled with the first requests for which there is an entry. -/
lemma insertFindEntries_eq {es : List RequestRef} (hes : (es.map Prod.snd).Nodup) (i n : ℕ)
    (hn : n ≤ cfg.pageSize) (memory : FindMemory) (message : List ServiceentryImpl) :
    ∃ size, insertFindEntries cfg requested 0 es i (n * MessageImpl.sdEntrySize) memory message =
      { memory := memory.countAll
          ((pendingEntries cfg requested memory es).take (cfg.pageSize - n))
        message := message ++ findEntries memory
          ((pendingEntries cfg requested memory es).take (cfg.pageSize - n))
        size
        done := (pendingEntries cfg requested memory es).length ≤ cfg.pageSize - n } := by
  induction es generalizing i n memory message with
  | nil =>
    refine ⟨n * MessageImpl.sdEntrySize, ?_⟩
    simp [insertFindEntries, pendingEntries, FindMemory.countAll, findEntries]
  | cons e es ih =>
    obtain ⟨key, address⟩ := e
    rw [List.map_cons, List.nodup_cons] at hes
    by_cases hpending : key ∈ requested ∧ (memory address).sentCounter.toNat ≠ cfg.limit
    · have hcons : pendingEntries cfg requested memory ((key, address) :: es) =
          (key, address) :: pendingEntries cfg requested memory es :=
        List.filter_cons_of_pos (decide_eq_true hpending)
      rw [insertFindEntries, if_pos hpending.1, if_pos hpending.2, if_pos (Nat.zero_le i), hcons]
      by_cases hroom : n < cfg.pageSize
      · obtain ⟨k, hk⟩ : ∃ k, cfg.pageSize - n = k + 1 := ⟨cfg.pageSize - n - 1, by omega⟩
        have hk' : cfg.pageSize - (n + 1) = k := by omega
        obtain ⟨size, hsize⟩ := ih hes.2 (i + 1) (n + 1) hroom (memory.count address)
          (message ++ [(memory address).entry key])
        have hrest : pendingEntries cfg requested (memory.count address) es =
            pendingEntries cfg requested memory es :=
          pendingEntries_congr fun d hd => memory.count_of_ne fun h =>
            hes.1 (List.mem_map.mpr ⟨d, hd, h⟩)
        rw [hrest, findEntries_count, hk', Nat.add_one_mul] at hsize
        refine ⟨size, ?_⟩
        rw [if_pos ((room_iff cfg n).mpr hroom), hsize, hk, List.take_succ_cons, List.length_cons,
          List.append_assoc]
        simp only [Nat.add_le_add_iff_right]
        rfl
      · have hfull : cfg.pageSize - n = 0 := Nat.sub_eq_zero_of_le (Nat.not_lt.mp hroom)
        refine ⟨n * MessageImpl.sdEntrySize, ?_⟩
        rw [if_neg (mt (room_iff cfg n).mp hroom), hfull]
        simp [FindMemory.countAll, findEntries]
    · have hcons : pendingEntries cfg requested memory ((key, address) :: es) =
          pendingEntries cfg requested memory es :=
        List.filter_cons_of_neg (by simpa using hpending)
      rw [hcons, insertFindEntries]
      by_cases hrequested : key ∈ requested
      · rw [if_pos hrequested, if_neg fun hcounter => hpending ⟨hrequested, hcounter⟩]
        exact ih hes.2 (i + 1) n hn memory message
      · rw [if_neg hrequested]
        exact ih hes.2 i n hn memory message

/-! ## The rounds -/

variable {requests : Requests} {memory : FindMemory}

/-- The requests for which `insert_find_entries` creates entries. -/
abbrev pendingRequests (cfg : FindConfig) (requested : Finset (UInt16 × UInt16))
    (requests : Requests) (memory : FindMemory) : List RequestRef :=
  pendingEntries cfg requested memory requests.entries

/-- No request is there twice. -/
lemma Requests.nodup (requests : Requests) : requests.entries.Nodup :=
  requests.distinct.of_map _

/-- No key is requested twice. -/
lemma Requests.keys_nodup (requests : Requests) : (requests.entries.map Prod.fst).Nodup := by
  rw [List.Nodup, List.pairwise_map]
  refine requests.sorted.imp fun {a b} h heq => ?_
  rcases h with hlt | ⟨-, hlt⟩
  · exact UInt16.ne_of_lt hlt (congrArg Prod.fst heq)
  · exact UInt16.ne_of_lt hlt (congrArg Prod.snd heq)

/-- The entries of different requests are different. -/
lemma entry_injective {a b : RequestRef} (ha : a ∈ requests.entries) (hb : b ∈ requests.entries)
    (h : (memory a.2).entry a.1 = (memory b.2).entry b.1) : a = b :=
  List.inj_on_of_nodup_map requests.keys_nodup ha hb <| Prod.ext
    (congrArg (fun e => e.toEntryImpl.service) h) (congrArg (fun e => e.toEntryImpl.instance_) h)

/-- No pending request is there twice. -/
lemma pendingRequests_nodup (memory : FindMemory) :
    ((pendingRequests cfg requested requests memory).map Prod.snd).Nodup :=
  requests.distinct.sublist (List.filter_sublist.map Prod.snd)

/-- A round fills a message with the first requests that are pending, and the loop ends if these are
all. -/
lemma findRound_eq (messages : List (List ServiceentryImpl)) :
    findRound cfg requested requests { memory, messages, start := 0 } =
      if (pendingRequests cfg requested requests memory).length ≤ cfg.pageSize then
        .inr (memory.countAll (pendingRequests cfg requested requests memory),
          messages ++ [findEntries memory (pendingRequests cfg requested requests memory)])
      else .inl
        { memory := memory.countAll
            ((pendingRequests cfg requested requests memory).take cfg.pageSize)
          messages := messages ++ [findEntries memory
            ((pendingRequests cfg requested requests memory).take cfg.pageSize)]
          start := 0 } := by
  obtain ⟨size, hsize⟩ := @insertFindEntries_eq cfg requested _ requests.distinct 0 0
    (Nat.zero_le _) memory []
  rw [Nat.zero_mul, Nat.sub_zero, List.nil_append] at hsize
  rw [findRound, hsize]
  by_cases hle : (pendingRequests cfg requested requests memory).length ≤ cfg.pageSize
  · rw [if_pos hle, if_pos (decide_eq_true hle), List.take_of_length_le hle]
  · rw [if_neg hle, if_neg fun h => hle (of_decide_eq_true h)]

/-- A counter below 255 does not wrap. -/
lemma toNat_succ_iff {c : UInt8} : (c + 1).toNat = c.toNat + 1 ↔ c ≠ 255 := by
  rw [Ne, ← UInt8.toNat_inj, UInt8.toNat_add, UInt8.toNat_one]
  have := c.toNat_lt
  have h255 : (255 : UInt8).toNat = 255 := rfl
  omega

/-- A request behind the first ones of those that are pending is not touched. -/
lemma countAll_take_of_mem_drop {n : ℕ} {e : RequestRef}
    (he : e ∈ (pendingRequests cfg requested requests memory).drop n) :
    memory.countAll ((pendingRequests cfg requested requests memory).take n) e.2 = memory e.2 := by
  refine memory.countAll_of_not_mem fun hmem => ?_
  have hnodup : ((pendingRequests cfg requested requests memory).map Prod.snd).Nodup :=
    pendingRequests_nodup memory
  rw [← List.take_append_drop n (pendingRequests cfg requested requests memory), List.map_append]
    at hnodup
  exact (List.nodup_append.mp hnodup).2.2 e.2 hmem e.2 (List.mem_map_of_mem he) rfl

/-- What is left without the first items. -/
lemma filter_not_mem_take {α : Type} [BEq α] [LawfulBEq α] {l : List α} (hl : l.Nodup) (n : ℕ) :
    (l.filter fun a => a ∉ l.take n) = l.drop n := by
  have hdisjoint := (List.nodup_append.mp ((List.take_append_drop n l).symm ▸ hl)).2.2
  calc (l.filter fun a => a ∉ l.take n)
      = (l.take n ++ l.drop n).filter fun a => a ∉ l.take n := by rw [List.take_append_drop]
    _ = [] ++ l.drop n := by
      rw [List.filter_append]
      congr 1
      · exact List.filter_eq_nil_iff.mpr fun a ha => by simpa using ha
      · exact List.filter_eq_self.mpr fun a ha =>
          decide_eq_true fun htake => hdisjoint a htake a ha rfl
    _ = l.drop n := List.nil_append _

/-- The requests that are pending after some of them were sent for the last time. -/
lemma pendingRequests_countAll {sent : List RequestRef}
    (hsent : sent.Sublist (pendingRequests cfg requested requests memory))
    (h : ∀ e ∈ sent, ((memory e.2).sentCounter + 1).toNat = cfg.limit) :
    pendingRequests cfg requested requests (memory.countAll sent) =
      (pendingRequests cfg requested requests memory).filter fun e => e ∉ sent := by
  refine Eq.trans (List.filter_congr fun e he => ?_) List.filter_filter.symm
  rw [← Bool.decide_and, decide_eq_decide]
  by_cases hmem : e ∈ sent
  · have hcount := memory.countAll_of_mem
      ((pendingRequests_nodup memory).sublist (hsent.map Prod.snd)) hmem
    refine iff_of_false (fun hpending => hpending.2 ?_) fun hpending => hpending.1 hmem
    rw [hcount]
    exact h e hmem
  · have hother : memory.countAll sent e.2 = memory e.2 := by
      refine memory.countAll_of_not_mem fun haddress => ?_
      obtain ⟨d, hd, hde⟩ := List.mem_map.mp haddress
      have hdmem := (mem_pendingEntries_iff.mp (hsent.subset hd)).1
      exact hmem (List.inj_on_of_nodup_map requests.distinct hdmem he hde ▸ hd)
    rw [hother]
    exact (and_iff_right hmem).symm

/-- The requests that are pending after a message whose requests were all sent for the last time. -/
lemma pendingRequests_countAll_take {n : ℕ}
    (h : ∀ e ∈ (pendingRequests cfg requested requests memory).take n,
      ((memory e.2).sentCounter + 1).toNat = cfg.limit) :
    pendingRequests cfg requested requests
        (memory.countAll ((pendingRequests cfg requested requests memory).take n)) =
      (pendingRequests cfg requested requests memory).drop n := by
  rw [pendingRequests_countAll (List.take_sublist n _) h]
  exact filter_not_mem_take ((pendingRequests_nodup memory).of_map _) n

/-! ## The loop -/

/-- A list that fits on one page has no page before the last one. -/
lemma beforeLastPage_of_le {α : Type} {size : ℕ} {l : List α} {P : α → Prop}
    (hle : l.length ≤ size) : BeforeLastPage size l P := by
  intro i a _ hlt
  rw [Nat.add_one_mul] at hlt
  omega

/-- The elements that do not stand on the last page are those of the first one, and those of the rest
of the list that do not stand on the last page. -/
lemma beforeLastPage_iff {α : Type} {size : ℕ} (hsize : 0 < size) {l : List α} {P : α → Prop}
    (hlt : size < l.length) :
    BeforeLastPage size l P ↔ (∀ a ∈ l.take size, P a) ∧ BeforeLastPage size (l.drop size) P := by
  constructor
  · intro h
    refine ⟨fun a ha => ?_, fun i a hi hpage => ?_⟩
    · obtain ⟨i, hi, rfl⟩ := List.mem_take_iff_getElem.mp ha
      have hisize : i < size := (Nat.lt_min.mp hi).1
      refine h i _ (List.getElem?_eq_getElem _) ?_
      rw [Nat.div_eq_of_lt hisize, Nat.zero_add, Nat.one_mul]
      exact hlt
    · rw [List.getElem?_drop] at hi
      rw [List.length_drop] at hpage
      refine h (size + i) a hi ?_
      rw [Nat.add_div_left i hsize, Nat.add_one_mul]
      omega
  · rintro ⟨hfirst, hrest⟩ i a hi hpage
    by_cases hisize : i < size
    · exact hfirst a (List.mem_of_getElem? ((List.getElem?_take_of_lt hisize).trans hi))
    · obtain ⟨j, rfl⟩ := Nat.exists_eq_add_of_le (Nat.not_lt.mp hisize)
      rw [Nat.add_div_left j hsize, Nat.add_one_mul] at hpage
      refine hrest j a (by rw [List.getElem?_drop, hi]) ?_
      rw [List.length_drop]
      omega

/-- What the condition says about the requests for which there are entries. -/
structure PendingFits (cfg : FindConfig) (requested : Finset (UInt16 × UInt16))
    (requests : Requests) (memory : FindMemory) : Prop where
  unwrapped : ∀ e ∈ pendingRequests cfg requested requests memory, (memory e.2).sentCounter ≠ 255
  paged : BeforeLastPage cfg.pageSize (pendingRequests cfg requested requests memory)
    fun e => (memory e.2).sentCounter = cfg.repetitionsMax

/-- A request that is counted to the limit was sent `repetitions_max_` times before. -/
lemma toNat_succ_eq_limit_iff {c : UInt8} :
    (c + 1).toNat = cfg.limit ↔ c = cfg.repetitionsMax ∧ c ≠ 255 := by
  have hc := c.toNat_lt
  have h255 : (255 : UInt8).toNat = 255 := rfl
  rw [FindConfig.limit, Ne, ← UInt8.toNat_inj, ← UInt8.toNat_inj, UInt8.toNat_add,
    UInt8.toNat_one]
  omega

/-- The condition for several messages is one for the first message and one for the others. -/
lemma pendingFits_iff_of_lt
    (hlt : cfg.pageSize < (pendingRequests cfg requested requests memory).length) :
    PendingFits cfg requested requests memory ↔
      (∀ e ∈ (pendingRequests cfg requested requests memory).take cfg.pageSize,
        ((memory e.2).sentCounter + 1).toNat = cfg.limit) ∧
      PendingFits cfg requested requests
        (memory.countAll ((pendingRequests cfg requested requests memory).take cfg.pageSize)) := by
  constructor
  · rintro ⟨hunwrapped, hpaged⟩
    obtain ⟨hfirst, hrest⟩ := (beforeLastPage_iff (pageSize_pos cfg) hlt).mp hpaged
    have hlimit : ∀ e ∈ (pendingRequests cfg requested requests memory).take cfg.pageSize,
        ((memory e.2).sentCounter + 1).toNat = cfg.limit := fun e he =>
      toNat_succ_eq_limit_iff.mpr ⟨hfirst e he, hunwrapped e (List.mem_of_mem_take he)⟩
    refine ⟨hlimit, fun e he => ?_, fun i e hi hpage => ?_⟩
    · rw [pendingRequests_countAll_take hlimit] at he
      rw [countAll_take_of_mem_drop he]
      exact hunwrapped e (List.mem_of_mem_drop he)
    · rw [pendingRequests_countAll_take hlimit] at hi hpage
      rw [countAll_take_of_mem_drop (List.mem_of_getElem? hi)]
      exact hrest i e hi hpage
  · rintro ⟨hlimit, hunwrapped, hpaged⟩
    rw [pendingRequests_countAll_take hlimit] at hunwrapped hpaged
    refine ⟨fun e he => ?_, (beforeLastPage_iff (pageSize_pos cfg) hlt).mpr
      ⟨fun e he => (toNat_succ_eq_limit_iff.mp (hlimit e he)).1, fun i e hi hpage => ?_⟩⟩
    · rw [← List.take_append_drop cfg.pageSize (pendingRequests cfg requested requests memory)] at he
      rcases List.mem_append.mp he with he | he
      · exact (toNat_succ_eq_limit_iff.mp (hlimit e he)).2
      · have := hunwrapped e he
        rwa [countAll_take_of_mem_drop he] at this
    · have := hpaged i e hi hpage
      dsimp only at this ⊢
      rwa [countAll_take_of_mem_drop (List.mem_of_getElem? hi)] at this

/-- Under the condition the loop ends, and creates an entry for each pending request.

**Proof sketch.** Induction on the number of pending requests: those of a full message are sent for
the last time, so that the others are pending afterwards. -/
lemma returns_of_pendingFits (hfits : PendingFits cfg requested requests memory)
    (messages : List (List ServiceentryImpl)) :
    ∃ more, Loop.Returns (Loop.run (findRound cfg requested requests)
        { memory, messages, start := 0 })
        (memory.countAll (pendingRequests cfg requested requests memory), messages ++ more) ∧
      more.flatten = findEntries memory (pendingRequests cfg requested requests memory) := by
  induction hn : (pendingRequests cfg requested requests memory).length using Nat.strongRecOn
    generalizing memory messages with
  | _ n ih =>
    have hround := @findRound_eq cfg requested requests memory messages
    by_cases hle : (pendingRequests cfg requested requests memory).length ≤ cfg.pageSize
    · rw [if_pos hle] at hround
      exact ⟨_, Loop.returns_of_inr hround, by rw [List.flatten_singleton]⟩
    · rw [if_neg hle] at hround
      obtain ⟨hlimit, hrest⟩ := (pendingFits_iff_of_lt (Nat.not_le.mp hle)).mp hfits
      have hpending := pendingRequests_countAll_take hlimit
      have hpage := pageSize_pos cfg
      obtain ⟨more, hreturns, hmore⟩ := ih _ (by rw [hpending, List.length_drop]; omega) hrest
        (messages ++ [findEntries memory
          ((pendingRequests cfg requested requests memory).take cfg.pageSize)]) rfl
      rw [hpending, FindMemory.countAll, FindMemory.countAll, ← List.foldl_append,
        List.take_append_drop, List.append_assoc] at hreturns
      refine ⟨_, Loop.returns_of_inl hround hreturns, ?_⟩
      rw [List.singleton_append, List.flatten_cons, hmore, hpending, findEntries_countAll,
        findEntries, findEntries, findEntries, ← List.map_append, List.take_append_drop]

/-- Whatever the counters are, a loop that ends has created an entry for each pending request. -/
lemma mem_flatten_of_returns {messages : List (List ServiceentryImpl)}
    {r : FindMemory × List (List ServiceentryImpl)}
    (hr : Loop.Returns (Loop.run (findRound cfg requested requests)
      { memory, messages, start := 0 }) r) :
    ∃ more, r.2 = messages ++ more ∧
      ∀ e ∈ pendingRequests cfg requested requests memory,
        (memory e.2).entry e.1 ∈ more.flatten := by
  -- a pending request has its entry, or is pending as before
  let Inv (s : FindLoop) : Prop := s.start = 0 ∧ ∃ more, s.messages = messages ++ more ∧
    ∀ e ∈ pendingRequests cfg requested requests memory, (memory e.2).entry e.1 ∈ more.flatten ∨
      e ∈ pendingRequests cfg requested requests s.memory ∧
        (s.memory e.2).entry e.1 = (memory e.2).entry e.1
  refine Loop.of_returns (I := Inv) (Q := fun r => ∃ more, r.2 = messages ++ more ∧
    ∀ e ∈ pendingRequests cfg requested requests memory, (memory e.2).entry e.1 ∈ more.flatten)
    ?_ ?_ ⟨rfl, [], (List.append_nil _).symm, fun e he => Or.inr ⟨he, rfl⟩⟩ hr
  · rintro ⟨m, ms, start⟩ s' ⟨rfl, more, rfl, hmore⟩ hround
    rw [findRound_eq] at hround
    split at hround
    · exact absurd hround nofun
    · obtain rfl := Sum.inl.inj hround
      refine ⟨rfl, _, List.append_assoc _ _ _, fun e he => ?_⟩
      rw [List.flatten_append, List.flatten_singleton, List.mem_append]
      rcases hmore e he with hsent | ⟨hpending, hentry⟩
      · exact Or.inl (Or.inl hsent)
      · have hsplit := hpending
        rw [← List.take_append_drop cfg.pageSize (pendingRequests cfg requested requests m)]
          at hsplit
        rcases List.mem_append.mp hsplit with htake | hdrop
        · rw [← hentry]
          exact Or.inl (Or.inr (List.mem_map_of_mem htake))
        · refine Or.inr ⟨mem_pendingEntries_iff.mpr ?_, ?_⟩
          · dsimp only
            rw [countAll_take_of_mem_drop hdrop]
            exact mem_pendingEntries_iff.mp hpending
          · dsimp only
            rw [countAll_take_of_mem_drop hdrop]
            exact hentry
  · rintro ⟨m, ms, start⟩ r ⟨rfl, more, rfl, hmore⟩ hround
    rw [findRound_eq] at hround
    split at hround
    · obtain rfl := Sum.inr.inj hround
      refine ⟨_, List.append_assoc _ _ _, fun e he => ?_⟩
      rw [List.flatten_append, List.flatten_singleton, List.mem_append]
      rcases hmore e he with hsent | ⟨hpending, hentry⟩
      · exact Or.inl hsent
      · rw [← hentry]
        exact Or.inr (List.mem_map_of_mem hpending)
    · exact absurd hround nofun

/-- A loop that creates one entry for each pending request and counts each of them once meets the
condition.

**Proof sketch.** Induction on the number of pending requests. If one of a full message is pending
afterwards, it has a second entry. -/
lemma pendingFits_of_returns {messages more : List (List ServiceentryImpl)} {memory' : FindMemory}
    (hr : Loop.Returns (Loop.run (findRound cfg requested requests)
      { memory, messages, start := 0 }) (memory', messages ++ more))
    (hperm : more.flatten.Perm
      (findEntries memory (pendingRequests cfg requested requests memory)))
    (hcount : ∀ e ∈ pendingRequests cfg requested requests memory,
      (memory' e.2).sentCounter.toNat = (memory e.2).sentCounter.toNat + 1) :
    PendingFits cfg requested requests memory := by
  induction hn : (pendingRequests cfg requested requests memory).length using Nat.strongRecOn
    generalizing memory messages more with
  | _ n ih =>
    have hround := @findRound_eq cfg requested requests memory messages
    by_cases hle : (pendingRequests cfg requested requests memory).length ≤ cfg.pageSize
    · rw [if_pos hle] at hround
      obtain ⟨rfl, -⟩ := Prod.mk.inj ((Loop.stable_run _).unique hr (Loop.returns_of_inr hround))
      refine ⟨fun e he => ?_, beforeLastPage_of_le hle⟩
      have := hcount e he
      rw [memory.countAll_of_mem (pendingRequests_nodup memory) he] at this
      exact toNat_succ_iff.mp this
    · rw [if_neg hle] at hround
      have hlt := Nat.not_le.mp hle
      obtain ⟨rest, hrest, hsent⟩ := mem_flatten_of_returns (Loop.returns_inl hround hr)
      rw [List.append_assoc, List.append_cancel_left_eq, List.singleton_append] at hrest
      obtain rfl := hrest
      -- the entries behind the first message are for the requests behind those of the first message
      have hsplit : findEntries memory (pendingRequests cfg requested requests memory) =
          findEntries memory ((pendingRequests cfg requested requests memory).take cfg.pageSize) ++
            findEntries memory
              ((pendingRequests cfg requested requests memory).drop cfg.pageSize) := by
        rw [findEntries, findEntries, findEntries, ← List.map_append, List.take_append_drop]
      rw [List.flatten_cons, hsplit, List.perm_append_left_iff] at hperm
      have hlimit : ∀ e ∈ (pendingRequests cfg requested requests memory).take cfg.pageSize,
          ((memory e.2).sentCounter + 1).toNat = cfg.limit := by
        intro e he
        have hmem := mem_pendingEntries_iff.mp (List.mem_of_mem_take he)
        have hcounted := memory.countAll_of_mem ((pendingRequests_nodup memory).sublist
          ((List.take_sublist cfg.pageSize _).map Prod.snd)) he
        by_contra hne
        have hagain := hsent e (mem_pendingEntries_iff.mpr
          ⟨hmem.1, hmem.2.1, by rw [hcounted]; exact hne⟩)
        rw [FindMemory.entry_countAll] at hagain
        obtain ⟨d, hd, hde⟩ := List.mem_map.mp (hperm.subset hagain)
        obtain rfl := entry_injective
          (mem_pendingEntries_iff.mp (List.mem_of_mem_drop hd)).1 hmem.1 hde
        have hnodup := (@pendingRequests_nodup cfg requested requests memory).of_map _
        rw [← List.take_append_drop cfg.pageSize (pendingRequests cfg requested requests memory)]
          at hnodup
        exact (List.nodup_append.mp hnodup).2.2 d he d hd rfl
      refine (pendingFits_iff_of_lt hlt).mpr ⟨hlimit, ?_⟩
      have hpending := pendingRequests_countAll_take hlimit
      have hpage := pageSize_pos cfg
      have hnext := Loop.returns_inl hround hr
      rw [List.append_cons _ _ rest] at hnext
      refine ih _ ?_ hnext ?_ (fun e he => ?_) rfl
      · rw [hpending, List.length_drop]
        omega
      · rw [hpending, findEntries_countAll]
        exact hperm
      · rw [hpending] at he
        rw [countAll_take_of_mem_drop he]
        exact hcount e (List.mem_of_mem_drop he)

/-! ## One call -/

/-- If no counter is beyond the limit, the requests for which there are entries are due. -/
lemma pendingRequests_eq_due (hcounted : ∀ e ∈ requests.entries, e.1 ∈ requested →
    (memory e.2).sentCounter.toNat ≤ cfg.limit) :
    pendingRequests cfg requested requests memory = dueRequests cfg requested requests memory := by
  refine List.filter_congr fun e he => ?_
  rw [decide_eq_decide]
  refine and_congr_right fun hrequested => ?_
  have := hcounted e he hrequested
  omega

/-- No request that is due is there twice. -/
lemma dueRequests_nodup (memory : FindMemory) :
    ((dueRequests cfg requested requests memory).map Prod.snd).Nodup :=
  requests.distinct.sublist (List.filter_sublist.map Prod.snd)

/-- What a call does under the condition. -/
lemma returns_of_fitsPages (hfits : FitsPages cfg requested requests memory) :
    ∃ messages, Loop.Returns (fillMessageWithFindEntries cfg requested requests memory)
        (memory.countAll (dueRequests cfg requested requests memory), messages) ∧
      messages.flatten = findEntries memory (dueRequests cfg requested requests memory) := by
  have hdue := pendingRequests_eq_due hfits.counted
  have hpending : PendingFits cfg requested requests memory :=
    ⟨fun e he => hfits.unwrapped e (hdue ▸ he), fun i e hi hpage =>
      hfits.paged i e (hdue ▸ hi) (hdue ▸ hpage)⟩
  have h := returns_of_pendingFits hpending []
  rwa [hdue] at h

/-- A call does what it should exactly under the condition. -/
lemma findsOnce_iff : FindsOnce cfg requested requests memory ↔
    FitsPages cfg requested requests memory := by
  constructor
  · rintro ⟨memory', messages, hr, hperm, hcount⟩
    obtain ⟨more, hmore, hsent⟩ := mem_flatten_of_returns hr
    dsimp only at hmore
    rw [List.nil_append] at hmore
    obtain rfl := hmore
    have hcounted : ∀ e ∈ requests.entries, e.1 ∈ requested →
        (memory e.2).sentCounter.toNat ≤ cfg.limit := by
      intro e he hrequested
      by_cases hlimit : (memory e.2).sentCounter.toNat = cfg.limit
      · exact hlimit.le
      · obtain ⟨d, hd, hde⟩ := List.mem_map.mp
          (hperm.subset (hsent e (mem_pendingEntries_iff.mpr ⟨he, hrequested, hlimit⟩)))
        obtain ⟨hdmem, hdue⟩ := List.mem_filter.mp hd
        obtain rfl := entry_injective hdmem he hde
        exact (of_decide_eq_true hdue).2.le
    rw [← pendingRequests_eq_due hcounted] at hperm hcount
    have hfits := @pendingFits_of_returns cfg requested requests memory [] _ _ hr hperm hcount
    refine ⟨hcounted, ?_, ?_⟩
    · rw [← pendingRequests_eq_due hcounted]
      exact hfits.unwrapped
    · rw [← pendingRequests_eq_due hcounted]
      exact hfits.paged
  · intro hfits
    obtain ⟨messages, hr, hmessages⟩ := returns_of_fitsPages hfits
    refine ⟨_, messages, hr, ?_, fun e he => ?_⟩
    · rw [hmessages]
      exact List.Perm.refl _
    · rw [memory.countAll_of_mem (dueRequests_nodup memory) he]
      exact toNat_succ_iff.mpr (hfits.unwrapped e he)

/-! ## All calls -/

/-- Under the condition a call sends those requests that are due, and no other ones. -/
lemma sent_fill {messages : List (List ServiceentryImpl)}
    (hmessages : messages.flatten = findEntries memory (dueRequests cfg requested requests memory))
    (address : ℕ) : FindEvent.sent address (.fill requests requested messages) =
      if ∃ e ∈ dueRequests cfg requested requests memory, e.2 = address then 1 else 0 := by
  unfold FindEvent.sent
  dsimp only
  cases hfind : requests.entries.find? fun e => e.2 = address with
  | none =>
    rw [if_neg]
    rintro ⟨e, he, rfl⟩
    exact absurd (decide_eq_true rfl)
      (List.find?_eq_none.mp hfind e (List.mem_of_mem_filter he))
  | some e =>
    obtain rfl : e.2 = address := by simpa using List.find?_some hfind
    have hmem := List.mem_of_find?_eq_some hfind
    have hkeys : ((dueRequests cfg requested requests memory).map Prod.fst).Nodup :=
      requests.keys_nodup.sublist (List.filter_sublist.map Prod.fst)
    have hcount : messages.flatten.countP (fun x => x.service = e.1.1 ∧ x.instance_ = e.1.2) =
        ((dueRequests cfg requested requests memory).map Prod.fst).count e.1 := by
      rw [hmessages, findEntries, List.countP_map, List.count, List.countP_map]
      refine List.countP_congr fun d _ => ?_
      rw [Function.comp, Function.comp, decide_eq_true_iff, beq_iff_eq, Prod.ext_iff]
      rfl
    dsimp only
    rw [hcount, hkeys.count]
    refine if_congr ⟨fun h => ?_, fun ⟨d, hd, hde⟩ => ?_⟩ rfl rfl
    · obtain ⟨d, hd, hde⟩ := List.mem_map.mp h
      exact ⟨d, hd, congrArg Prod.snd
        (List.inj_on_of_nodup_map requests.keys_nodup (List.mem_of_mem_filter hd) hmem hde)⟩
    · rw [← List.inj_on_of_nodup_map requests.distinct (List.mem_of_mem_filter hd) hmem hde]
      exact List.mem_map_of_mem hd

/-- The entries for a request and its counter stay below the limit together.

**Proof sketch.** Induction on the history. A call that sends the request increases its counter, which
was below the limit. -/
lemma timesSent_add_le {events : List FindEvent} (h : OrderlyFinds cfg memory events) (address : ℕ)
    (hcounter : (memory address).sentCounter.toNat ≤ cfg.limit) :
    timesSent address events + (memory address).sentCounter.toNat ≤ cfg.limit := by
  induction h with
  | nil memory => exact (Nat.zero_add _).trans_le hcounter
  | @fill memory memory' requests requested messages events hfits hreturns _ ih =>
    obtain ⟨messages', hr, hmessages⟩ := returns_of_fitsPages hfits
    obtain ⟨rfl, rfl⟩ := Prod.mk.inj ((Loop.stable_run _).unique hreturns hr)
    rw [timesSent, List.map_cons, List.sum_cons, ← timesSent, sent_fill hmessages]
    by_cases hdue : ∃ e ∈ dueRequests cfg requested requests memory, e.2 = address
    · obtain ⟨e, he, rfl⟩ := hdue
      have hlt := (of_decide_eq_true (List.mem_filter.mp he).2).2
      have hsucc := toNat_succ_iff.mpr (hfits.unwrapped e he)
      rw [memory.countAll_of_mem (dueRequests_nodup memory) he] at ih
      rw [if_pos ⟨e, he, rfl⟩]
      dsimp only at ih
      omega
    · rw [if_neg hdue]
      have hother := @FindMemory.countAll_of_not_mem memory _ address fun hmem =>
        hdue (List.mem_map.mp hmem)
      rw [hother] at ih
      have := ih hcounter
      omega
  | @answered memory other events hlimit _ ih =>
    rw [timesSent, List.map_cons, List.sum_cons, ← timesSent, FindEvent.sent, Nat.zero_add]
    by_cases heq : address = other
    · have hset : ((memory.answer cfg other) address).sentCounter.toNat = cfg.limit := by
        rw [heq, FindMemory.answer, Function.update_self]
        exact toNat_succ_iff.mpr hlimit
      have := ih hset.le
      omega
    · have hset : (memory.answer cfg other) address = memory address :=
        Function.update_of_ne heq _ _
      rw [hset] at ih
      exact ih hcounter

end Page

/-- **Find paging.** A call creates one entry for each request that is due and counts each of them
once exactly if no counter is beyond the limit or at 255, and all messages but the last one are filled
with requests that are sent for the last time; otherwise the requests of a full message are sent again
with the next one, and may be sent without end. If all calls are so, a new request is sent
`repetitions_max_ + 1` times at most. -/
theorem findPaging (cfg : FindConfig) :
    (∀ (requested : Finset (UInt16 × UInt16)) (requests : Requests) (memory : FindMemory),
      FindsOnce cfg requested requests memory ↔ FitsPages cfg requested requests memory) ∧
    ∀ {memory : FindMemory} {events : List FindEvent}, OrderlyFinds cfg memory events →
      ∀ address, (memory address).sentCounter = 0 →
        timesSent address events ≤ cfg.repetitionsMax.toNat + 1 := by
  refine ⟨fun requested requests memory => findsOnce_iff, fun h address hzero => ?_⟩
  have := timesSent_add_le h address (by rw [hzero]; exact Nat.zero_le _)
  rw [hzero] at this
  exact this

/-- Requests for some instances of a service, at the addresses from 0 on. -/
def instanceRequests (n : ℕ) (hn : n ≤ 2 ^ 16) : Requests where
  entries := (List.range n).map fun i => ((0x1234, UInt16.ofNat i), i)
  sorted := by
    rw [List.pairwise_map]
    refine List.pairwise_lt_range.imp_of_mem fun {i j} hi hj hlt => Or.inr ⟨rfl, ?_⟩
    rw [List.mem_range] at hi hj
    rw [UInt16.lt_iff_toNat_lt, UInt16.toNat_ofNat_of_lt' (hi.trans_le hn),
      UInt16.toNat_ofNat_of_lt' (hj.trans_le hn)]
    exact hlt
  distinct := by
    rw [List.map_map]
    exact (List.map_id _).symm ▸ List.nodup_range

/-- New requests. -/
def newRequests : FindMemory := fun _ => { major := 0, minor := 0, ttl := 3, sentCounter := 0 }

/-- Of three requests two are still requested. One of these is answered between two calls, and the other
one is sent with both, that is four times at most with three repetitions. -/
theorem findPaging_twoCalls :
    FindsOnce ⟨false, 3⟩ {(0x1234, 0), (0x1234, 2)} (instanceRequests 3 (by decide)) newRequests ∧
      ∃ messages messages' memory' memory'',
        Loop.Returns (fillMessageWithFindEntries ⟨false, 3⟩ {(0x1234, 0), (0x1234, 2)}
          (instanceRequests 3 (by decide)) newRequests) (memory', messages) ∧
        Loop.Returns (fillMessageWithFindEntries ⟨false, 3⟩ {(0x1234, 0), (0x1234, 2)}
          (instanceRequests 3 (by decide)) (memory'.answer ⟨false, 3⟩ 2)) (memory'', messages') ∧
        timesSent 0 [.fill (instanceRequests 3 (by decide)) {(0x1234, 0), (0x1234, 2)} messages,
          .answered 2,
          .fill (instanceRequests 3 (by decide)) {(0x1234, 0), (0x1234, 2)} messages'] ≤ 4 := by
  have hfits : FitsPages ⟨false, 3⟩ {(0x1234, 0), (0x1234, 2)} (instanceRequests 3 (by decide))
      newRequests := ⟨by decide, by decide, beforeLastPage_of_le (by decide)⟩
  have hagain : FitsPages ⟨false, 3⟩ {(0x1234, 0), (0x1234, 2)} (instanceRequests 3 (by decide))
      ((newRequests.countAll (dueRequests ⟨false, 3⟩ {(0x1234, 0), (0x1234, 2)}
        (instanceRequests 3 (by decide)) newRequests)).answer ⟨false, 3⟩ 2) :=
    ⟨by decide, by decide, beforeLastPage_of_le (by decide)⟩
  obtain ⟨messages, hr, -⟩ := returns_of_fitsPages hfits
  obtain ⟨messages', hr', -⟩ := returns_of_fitsPages hagain
  exact ⟨((findPaging ⟨false, 3⟩).1 _ _ _).mpr hfits, messages, messages', _, _, hr, hr',
    (findPaging ⟨false, 3⟩).2
      (.fill hfits hr (.answered (by decide) (.fill hagain hr' (.nil _)))) 0 rfl⟩

/-- Of the requests for 87 instances, one more than a message has room for, the first ones are sent
again with the second message. -/
theorem not_findsOnce : ¬ ∀ (cfg : FindConfig) (requested : Finset (UInt16 × UInt16))
    (requests : Requests) (memory : FindMemory), FindsOnce cfg requested requests memory := by
  intro h
  let requests := instanceRequests 87 (by decide)
  let requested := (requests.entries.map Prod.fst).toFinset
  have hfits := findsOnce_iff.mp (h ⟨false, 3⟩ requested requests newRequests)
  have hdue : dueRequests ⟨false, 3⟩ requested requests newRequests = requests.entries :=
    List.filter_eq_self.mpr fun e he => decide_eq_true
      ⟨List.mem_toFinset.mpr (List.mem_map_of_mem he), (by decide : 0 < 4)⟩
  have hpaged := hfits.paged
  rw [hdue] at hpaged
  exact absurd (hpaged 0 ((0x1234, 0), 0) rfl (by decide)) (by decide)

end Vsomeip.Sd
