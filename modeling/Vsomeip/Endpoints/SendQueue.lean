import Mathlib.Algebra.BigOperators.Group.List.Basic
import Vsomeip.Endpoints.Buffer

set_option relaxedAutoImplicit false
set_option autoImplicit false

/-!
# Send queues

Client and server endpoints send in the same way: a message is appended to `packetizer_`; when the
next message would not fit any more or a flush is asked for, the packetizer is pushed to the back of
a queue; and the front of the queue is handed to the socket by an asynchronous write. A client
endpoint has one packetizer and one queue, a server endpoint has one of each for every target.

The bodies of `client_endpoint_impl::send` and `server_endpoint_impl::send_intern` between the check
of the message size and the start of a write are the same; `enqueue` is this body.

## Main definitions

* `Vsomeip.SendQueue` — a packetizer, a queue, and the writes that were started.
* `Vsomeip.SendQueue.enqueue` — put a message into the packetizer, or refuse it.
* `Vsomeip.SendQueue.Stranded` — the messages that are refused behind a queue that nobody writes.
* `Vsomeip.SendQueue.Writing` — exactly the front of the queue is being written.

## Main results

* `Vsomeip.SendQueue.Writing.enqueue_refused_iff` — a message that is refused keeps the queue
  written exactly if it does not strand it.
* `Vsomeip.SendQueue.bytes_enqueue` — the bytes of an accepted message stand behind those of the
  messages before it.
-/

namespace Vsomeip

/-- `QUEUE_SIZE_UNLIMITED`. -/
def queueSizeUnlimited : UInt32 := 0xFFFFFFFF

/-- `max_message_size_` and `queue_limit_` of an endpoint. -/
structure SendConfig where
  maxMessageSize : UInt32
  queueLimit : UInt32

/-- A message is too large for an endpoint. -/
def SendConfig.TooBig (cfg : SendConfig) (data : List UInt8) : Prop :=
  cfg.maxMessageSize ≠ messageSizeUnlimited ∧ data.length > cfg.maxMessageSize.toNat

instance (cfg : SendConfig) (data : List UInt8) : Decidable (cfg.TooBig data) := by
  unfold SendConfig.TooBig; infer_instance

/-- The packetizer and the queue of an endpoint with the size that is kept for it, the buffers of
the asynchronous writes that are outstanding, and those of the writes that are done. -/
structure SendQueue where
  packetizer : List UInt8
  queue : List (List UInt8)
  queueSize : ℕ
  writes : List (List UInt8)
  written : List (List UInt8)
deriving DecidableEq, Repr

namespace SendQueue

/-- Nothing to send. -/
def empty : SendQueue := { packetizer := [], queue := [], queueSize := 0, writes := [], written := [] }

/-- The packetizer is pushed to the back of the queue, and a new one is made. -/
def pushPacketizer (q : SendQueue) : SendQueue :=
  { q with
    packetizer := []
    queue := q.queue ++ [q.packetizer]
    queueSize := q.queueSize + q.packetizer.length }

/-- A packetizer in which a message of the given size does not fit any more is pushed to the
queue. -/
def makeRoom (cfg : SendConfig) (q : SendQueue) (size : ℕ) : SendQueue :=
  if q.packetizer.length + size > cfg.maxMessageSize.toNat ∧ q.packetizer ≠ [] then q.pushPacketizer
  else q

/-- A message of the given size is refused by the queue limit. -/
def limitReached (cfg : SendConfig) (q : SendQueue) (size : ℕ) : Prop :=
  cfg.queueLimit ≠ queueSizeUnlimited ∧ q.queueSize + size > cfg.queueLimit.toNat

instance (cfg : SendConfig) (q : SendQueue) (size : ℕ) : Decidable (q.limitReached cfg size) := by
  unfold limitReached; infer_instance

/-- The common body of `send` and `send_intern`: the queue afterwards and whether the message was
accepted. A packetizer that was pushed to make room stays in the queue if the message is refused. -/
def enqueue (cfg : SendConfig) (q : SendQueue) (data : List UInt8) (flush : Bool) :
    SendQueue × Bool :=
  let q₁ := q.makeRoom cfg data.length
  if q₁.limitReached cfg data.length then (q₁, false)
  else
    let q₂ := { q₁ with packetizer := q₁.packetizer ++ data }
    (if flush then q₂.pushPacketizer else q₂, true)

/-- An asynchronous write of the front of the queue is started. -/
def startWrite (q : SendQueue) : SendQueue :=
  match q.queue with
  | [] => q
  | buffer :: _ => { q with writes := q.writes ++ [buffer] }

/-- The front of the queue is taken away. -/
def popFront (q : SendQueue) : SendQueue :=
  match q.queue with
  | [] => q
  | buffer :: rest => { q with queue := rest, queueSize := q.queueSize - buffer.length }

/-- An outstanding write has succeeded. -/
def complete (q : SendQueue) (i : ℕ) : SendQueue :=
  { q with writes := q.writes.eraseIdx i, written := q.written ++ q.writes[i]?.toList }

/-- An outstanding write has failed. -/
def fail (q : SendQueue) (i : ℕ) : SendQueue := { q with writes := q.writes.eraseIdx i }

/-- The number of bytes in the queue. -/
def queued (q : SendQueue) : ℕ := (q.queue.map List.length).sum

/-- All bytes that were accepted, as far as they are still known: those that are written, those in
the queue and those in the packetizer. -/
def bytes (q : SendQueue) : List UInt8 := q.written.flatten ++ q.queue.flatten ++ q.packetizer

/-- Exactly one write is outstanding if the queue is not empty, that of its front, and none if it is
empty. -/
def Writing (q : SendQueue) : Prop := q.writes = q.queue.take 1

/-- A message is refused by the queue limit behind a packetizer that is pushed to make room for it,
and the queue was empty before: nobody starts to write the packetizer. -/
def Stranded (cfg : SendConfig) (q : SendQueue) (data : List UInt8) : Prop :=
  q.queue = [] ∧ q.packetizer ≠ [] ∧
    q.packetizer.length + data.length > cfg.maxMessageSize.toNat ∧
    (q.makeRoom cfg data.length).limitReached cfg data.length

/-! ## What the operations do -/

section Operations

variable {cfg : SendConfig} {q : SendQueue} {data : List UInt8} {flush : Bool}

/-- Making room leaves the writes alone and appends to the queue. -/
lemma makeRoom_spec (cfg : SendConfig) (q : SendQueue) (size : ℕ) :
    (q.makeRoom cfg size).writes = q.writes ∧ (q.makeRoom cfg size).written = q.written ∧
      ∃ pushed, (q.makeRoom cfg size).queue = q.queue ++ pushed := by
  unfold makeRoom
  split_ifs
  · exact ⟨rfl, rfl, [q.packetizer], rfl⟩
  · exact ⟨rfl, rfl, [], (List.append_nil _).symm⟩

/-- What holds of a queue with or without its packetizer holds of it when room is made. -/
lemma makeRoom_induction {P : SendQueue → Prop} (h : P q) (hpush : P q.pushPacketizer)
    (cfg : SendConfig) (size : ℕ) : P (q.makeRoom cfg size) := by
  unfold makeRoom
  split_ifs
  · exact hpush
  · exact h

/-- When room is made, the message fits, or the packetizer is empty. -/
lemma makeRoom_fits (cfg : SendConfig) (q : SendQueue) (size : ℕ) :
    (q.makeRoom cfg size).packetizer.length + size ≤ cfg.maxMessageSize.toNat ∨
      (q.makeRoom cfg size).packetizer = [] := by
  unfold makeRoom
  split_ifs with hroom
  · exact Or.inr rfl
  · by_cases hempty : q.packetizer = []
    · exact Or.inr hempty
    · left
      by_contra hlt
      exact hroom ⟨by omega, hempty⟩

/-- A message leaves the writes alone and appends to the queue. -/
lemma enqueue_spec (cfg : SendConfig) (q : SendQueue) (data : List UInt8) (flush : Bool) :
    (q.enqueue cfg data flush).1.writes = q.writes ∧
      (q.enqueue cfg data flush).1.written = q.written ∧
      ∃ pushed, (q.enqueue cfg data flush).1.queue = q.queue ++ pushed := by
  obtain ⟨hwrites, hwritten, pushed, hqueue⟩ := makeRoom_spec cfg q data.length
  simp only [enqueue]
  split_ifs
  · exact ⟨hwrites, hwritten, pushed, hqueue⟩
  · refine ⟨hwrites, hwritten,
      pushed ++ [(q.makeRoom cfg data.length).packetizer ++ data], ?_⟩
    simp [pushPacketizer, hqueue]
  · exact ⟨hwrites, hwritten, pushed, hqueue⟩

/-- A packetizer that is pushed keeps its place behind the queue. -/
@[simp] lemma bytes_pushPacketizer (q : SendQueue) : q.pushPacketizer.bytes = q.bytes := by
  simp [bytes, pushPacketizer]

/-- Making room loses no byte. -/
@[simp] lemma bytes_makeRoom (cfg : SendConfig) (q : SendQueue) (size : ℕ) :
    (q.makeRoom cfg size).bytes = q.bytes :=
  makeRoom_induction (P := fun q' => q'.bytes = q.bytes) rfl (bytes_pushPacketizer q) cfg size

/-- The start of a write loses no byte. -/
@[simp] lemma bytes_startWrite (q : SendQueue) : q.startWrite.bytes = q.bytes := by
  unfold startWrite
  split <;> rfl

/-- The bytes of an accepted message stand behind all others, and a message that is refused leaves
nothing behind. -/
lemma bytes_enqueue (cfg : SendConfig) (q : SendQueue) (data : List UInt8) (flush : Bool) :
    (q.enqueue cfg data flush).1.bytes =
      q.bytes ++ if (q.enqueue cfg data flush).2 then data else [] := by
  have happend (q' : SendQueue) :
      ({ q' with packetizer := q'.packetizer ++ data } : SendQueue).bytes = q'.bytes ++ data := by
    simp [bytes]
  by_cases hlimit : (q.makeRoom cfg data.length).limitReached cfg data.length
  · simp [enqueue, hlimit]
  · cases flush with
    | true => simp [enqueue, hlimit, happend]
    | false => simp [enqueue, hlimit, happend]

/-- The messages that are accepted are those that the limit does not refuse. -/
lemma enqueue_accepted_iff :
    (q.enqueue cfg data flush).2 = true ↔
      ¬ (q.makeRoom cfg data.length).limitReached cfg data.length := by
  by_cases hlimit : (q.makeRoom cfg data.length).limitReached cfg data.length
  · simp [enqueue, hlimit]
  · simp [enqueue, hlimit]

/-- A queue that is refused a message while it is empty has something in it afterwards exactly if it
is stranded. -/
lemma stranded_iff (hrefused : (q.enqueue cfg data flush).2 = false) (hempty : q.queue = []) :
    q.Stranded cfg data ↔ (q.enqueue cfg data flush).1.queue ≠ [] := by
  have hlimit : (q.makeRoom cfg data.length).limitReached cfg data.length := by
    by_contra h
    rw [enqueue_accepted_iff.mpr h] at hrefused
    simp at hrefused
  have hqueue : (q.enqueue cfg data flush).1.queue = (q.makeRoom cfg data.length).queue := by
    simp [enqueue, hlimit]
  rw [hqueue]
  by_cases hroom : q.packetizer.length + data.length > cfg.maxMessageSize.toNat ∧ q.packetizer ≠ []
  · have hpushed : (q.makeRoom cfg data.length).queue = q.queue ++ [q.packetizer] := by
      rw [makeRoom, if_pos hroom]
      rfl
    rw [hpushed]
    exact iff_of_true ⟨hempty, hroom.2, hroom.1, hlimit⟩ (by simp)
  · have hsame : (q.makeRoom cfg data.length).queue = q.queue := by
      rw [makeRoom, if_neg hroom]
    rw [hsame]
    exact iff_of_false (fun h => hroom ⟨h.2.2.1, h.2.1⟩) (by simp [hempty])

/-- A queue that was not empty and is being written goes on being written when something is
appended to it. -/
lemma Writing.of_append {q' : SendQueue} {pushed : List (List UInt8)} (h : q.Writing)
    (hne : q.queue ≠ []) (hwrites : q'.writes = q.writes) (hqueue : q'.queue = q.queue ++ pushed) :
    q'.Writing := by
  obtain ⟨b, rest, hb⟩ := List.exists_cons_of_ne_nil hne
  rw [Writing, hwrites, hqueue, h, hb]
  rfl

/-- Nothing is being written if the queue is empty. -/
lemma Writing.writes_eq_nil (h : q.Writing) (hempty : q.queue = []) : q.writes = [] := by
  rw [h, hempty]
  rfl

/-- A message leaves a queue as it should be, unless the queue has become not empty by it: then a
write has to be started. -/
lemma Writing.enqueue (h : q.Writing)
    (hq : q.queue ≠ [] ∨ (q.enqueue cfg data flush).1.queue = []) :
    (q.enqueue cfg data flush).1.Writing := by
  obtain ⟨hwrites, -, pushed, hqueue⟩ := enqueue_spec cfg q data flush
  by_cases hempty : q.queue = []
  · have hnil := hq.resolve_left (not_not.mpr hempty)
    rw [Writing, hwrites, hnil, h.writes_eq_nil hempty]
    rfl
  · exact h.of_append hempty hwrites hqueue

/-- A message that is refused leaves a queue as it should be exactly if it is not stranded.

**Proof sketch.** If the queue was not empty, its front stays what it was and goes on being written.
If it was empty, nothing is being written, and it has to be empty still. -/
lemma Writing.enqueue_refused_iff (h : q.Writing)
    (hrefused : (q.enqueue cfg data flush).2 = false) :
    (q.enqueue cfg data flush).1.Writing ↔ ¬ q.Stranded cfg data := by
  by_cases hempty : q.queue = []
  · rw [stranded_iff hrefused hempty, not_not]
    refine ⟨fun hw => ?_, fun hnil => h.enqueue (Or.inr hnil)⟩
    rw [Writing, (enqueue_spec cfg q data flush).1, h.writes_eq_nil hempty] at hw
    simpa using hw.symm
  · exact iff_of_true (h.enqueue (Or.inl hempty)) fun hs => hempty hs.1

/-- A message that is accepted does not strand the queue. -/
lemma not_stranded_of_accepted (h : (q.enqueue cfg data flush).2 = true) : ¬ q.Stranded cfg data :=
  fun hs => enqueue_accepted_iff.mp h hs.2.2.2

/-- A write of the front of the queue, when none is outstanding. -/
lemma writing_startWrite (h : q.writes = []) : q.startWrite.Writing := by
  unfold startWrite
  cases hq : q.queue with
  | nil => simp [Writing, h, hq]
  | cons b rest => simp [Writing, h]

/-- The only write that is outstanding is done, and its buffer is taken from the queue. -/
lemma Writing.complete (h : q.Writing) {b : List UInt8} {rest : List (List UInt8)}
    (hq : q.queue = b :: rest) :
    (q.complete 0).popFront.writes = [] ∧ (q.complete 0).popFront.queue = rest ∧
      (q.complete 0).popFront.bytes = q.bytes := by
  have hw : q.writes = [b] := by rw [h, hq]; rfl
  simp [SendQueue.complete, popFront, hq, hw, bytes]

/-! ## The size of the queue -/

/-- The size that is kept for the queue is that of its buffers. -/
def Counted (q : SendQueue) : Prop := q.queueSize = q.queued

/-- The size stays that of the queue and the packetizer. -/
lemma Counted.pushPacketizer (h : q.Counted) : q.pushPacketizer.Counted := by
  have h' : q.queueSize = (q.queue.map List.length).sum := h
  simp [Counted, queued, SendQueue.pushPacketizer, h']

/-- Making room keeps the size right. -/
lemma Counted.makeRoom (h : q.Counted) (cfg : SendConfig) (size : ℕ) :
    (q.makeRoom cfg size).Counted :=
  makeRoom_induction h h.pushPacketizer cfg size

/-- A message that is queued is counted. -/
lemma Counted.enqueue (h : q.Counted) (cfg : SendConfig) (data : List UInt8) (flush : Bool) :
    (q.enqueue cfg data flush).1.Counted := by
  have hroom := h.makeRoom cfg data.length
  simp only [SendQueue.enqueue]
  split_ifs
  · exact hroom
  · exact Counted.pushPacketizer (show Counted { q.makeRoom cfg data.length with .. } from hroom)
  · exact hroom

/-- The start of a write keeps the size right. -/
lemma Counted.startWrite (h : q.Counted) : q.startWrite.Counted := by
  unfold SendQueue.startWrite
  split
  · exact h
  · exact h

/-- The first buffer is no longer counted when it leaves the queue. -/
lemma Counted.popFront (h : q.Counted) : q.popFront.Counted := by
  have h' : q.queueSize = (q.queue.map List.length).sum := h
  unfold SendQueue.popFront
  split
  · exact h
  · rename_i b rest hq
    rw [hq, List.map_cons, List.sum_cons] at h'
    change q.queueSize - b.length = (rest.map List.length).sum
    omega

end Operations

end SendQueue

end Vsomeip
