import Mathlib.Data.UInt
import Vsomeip.Lib.Framing

set_option relaxedAutoImplicit false
set_option autoImplicit false

/-!
# Receive buffers

The stream endpoints (`local_server_endpoint_impl.cpp`, `tcp_server_endpoint_impl.cpp`,
`tcp_client_endpoint_impl.cpp`) all keep a byte vector `recv_buffer_` of which the first
`recv_buffer_size_` bytes are pending, offer the socket some room behind them, and move what is
incomplete to the front when the messages before it are done. The vector grows by `reserve` and
`resize` to the same number and shrinks by `resize` and `shrink_to_fit`, so its capacity is its
size.

## Main definitions

* `Vsomeip.ErrorCode` — the error codes of the sockets that the endpoints look at.
* `Vsomeip.RecvBuffer` — the members that make up a receive buffer.
* `Vsomeip.RecvBuffer.receive` — the common body of `connection::start` and the `receive` functions.
* `Vsomeip.RecvBuffer.shift` — moving the incomplete message to the front.
* `Vsomeip.RecvBuffer.Ready` — a buffer that waits for more bytes behind given ones.

## Main results

* `Vsomeip.RecvBuffer.ready_receive` — `receive` leaves the pending bytes alone and offers room.
-/

namespace Vsomeip

/-- The values of `boost::system::error_code` that the endpoints distinguish. -/
inductive ErrorCode
  | success
  | operationAborted
  | eof
  | connectionReset
  | timedOut
  | badDescriptor
  | notConnected
  | brokenPipe
  | alreadyConnected
  | other
deriving DecidableEq, Repr

/-- `MESSAGE_SIZE_UNLIMITED`. -/
def messageSizeUnlimited : UInt32 := 0xFFFFFFFF

/-- The constants of a receiving endpoint: `recv_buffer_size_initial_`,
`buffer_shrink_threshold_` and `max_message_size_`. A buffer is never empty at the beginning. -/
structure RecvConfig where
  initialSize : ℕ
  shrinkThreshold : UInt32
  maxMessageSize : UInt32
  initialSize_pos : 0 < initialSize

/-- The members of a receiving endpoint that make up its buffer: `recv_buffer_`,
`recv_buffer_size_`, `missing_capacity_` and `shrink_count_`, and the length of the buffer that was
offered to the socket last. -/
structure RecvBuffer where
  buffer : List UInt8
  size : ℕ
  missingCapacity : UInt32
  shrinkCount : UInt32
  offered : ℕ

namespace RecvBuffer

/-- The buffer of a new endpoint. -/
def init (cfg : RecvConfig) : RecvBuffer :=
  { buffer := List.replicate cfg.initialSize 0, size := 0, missingCapacity := 0, shrinkCount := 0,
    offered := 0 }

/-- `recv_buffer_.resize(n, 0x0)`. -/
def resize (b : RecvBuffer) (n : ℕ) : RecvBuffer :=
  { b with buffer := b.buffer.take n ++ List.replicate (n - b.buffer.length) 0 }

/-- The common body of `connection::start` of the local server endpoint and of the `receive`
functions of the TCP endpoints, on an open socket: make room for the bytes that are known to be
missing or shrink an empty buffer, and offer the socket a part of the room. The test that
`missing_capacity_`, a 32-bit number, exceeds the largest 32-bit number never holds. -/
def receive (cfg : RecvConfig) (b : RecvBuffer) : RecvBuffer :=
  let itsCapacity := b.buffer.length
  if b.missingCapacity ≠ 0 then
    let itsRequiredCapacity := b.size + b.missingCapacity.toNat
    let b' := if itsCapacity < itsRequiredCapacity then b.resize itsRequiredCapacity else b
    { b' with offered := b.missingCapacity.toNat, missingCapacity := 0 }
  else if cfg.shrinkThreshold ≠ 0 ∧ b.shrinkCount > cfg.shrinkThreshold ∧ b.size = 0 then
    { b.resize cfg.initialSize with offered := cfg.initialSize, shrinkCount := 0 }
  else { b with offered := itsCapacity - b.size }

/-- The socket has written `bytes` behind the pending ones, and the callback counts them. -/
def store (b : RecvBuffer) (bytes : List UInt8) : RecvBuffer :=
  { b with
    buffer := b.buffer.take b.size ++ bytes ++ b.buffer.drop (b.size + bytes.length)
    size := b.size + bytes.length }

/-- `calculate_shrink_count`. -/
def calculateShrinkCount (cfg : RecvConfig) (b : RecvBuffer) : RecvBuffer :=
  if cfg.shrinkThreshold ≠ 0 ∧ b.buffer.length ≠ cfg.initialSize then
    { b with shrinkCount := if b.size < b.buffer.length / 2 then b.shrinkCount + 1 else 0 }
  else b

/-- Copy the incomplete message to the front, and forget the missing capacity if there is room for
it now. -/
def shift (b : RecvBuffer) (gap : ℕ) : RecvBuffer :=
  { b with
    buffer := (b.buffer.drop gap).take b.size ++ b.buffer.drop b.size
    missingCapacity :=
      if b.missingCapacity ≠ 0 ∧ b.missingCapacity.toNat ≤ b.buffer.length - b.size then 0
      else b.missingCapacity }

/-- The pending bytes, when they start at the offset `gap` of the buffer. -/
def content (b : RecvBuffer) (gap : ℕ) : List UInt8 := (b.buffer.drop gap).take b.size

/-! ## What the operations do to the pending bytes -/

/-- The content has as many bytes as the buffer says. -/
lemma length_content {b : RecvBuffer} {gap : ℕ} (h : gap + b.size ≤ b.buffer.length) :
    (b.content gap).length = b.size := by
  rw [content, List.length_take, List.length_drop]
  omega

/-- A buffer that is resized has the new capacity. -/
lemma length_buffer_resize (b : RecvBuffer) (n : ℕ) : (b.resize n).buffer.length = n := by
  simp only [resize, List.length_append, List.length_take, List.length_replicate]
  omega

/-- Growing the buffer keeps its bytes. -/
lemma content_resize {b : RecvBuffer} {n : ℕ} (h : b.size ≤ b.buffer.length) (hn : b.size ≤ n) :
    (b.resize n).content 0 = b.content 0 := by
  simp only [content, resize, List.drop_zero]
  rw [List.take_append_of_le_length (by rw [List.length_take]; omega), List.take_take,
    Nat.min_eq_left hn]

/-- The bytes that were stored are pending behind the ones before. -/
lemma content_store {b : RecvBuffer} {bytes : List UInt8}
    (h : b.size + bytes.length ≤ b.buffer.length) :
    (b.store bytes).content 0 = b.content 0 ++ bytes := by
  have hlen : (b.buffer.take b.size ++ bytes).length = b.size + bytes.length := by
    rw [List.length_append, List.length_take]
    omega
  simp only [content, store, List.drop_zero]
  rw [← hlen, List.take_left]

/-- Storing bytes keeps the capacity. -/
lemma length_buffer_store {b : RecvBuffer} {bytes : List UInt8}
    (h : b.size + bytes.length ≤ b.buffer.length) :
    (b.store bytes).buffer.length = b.buffer.length := by
  simp only [store, List.length_append, List.length_take, List.length_drop]
  omega

/-- When the first of the pending bytes have been taken away, the others are pending. -/
lemma content_add {b b' : RecvBuffer} {gap : ℕ} {x rest : List UInt8}
    (hsize : b.size = (x ++ rest).length) (hc : b.content gap = x ++ rest)
    (hbuf : b'.buffer = b.buffer) (hrest : b'.size = rest.length) :
    b'.content (gap + x.length) = rest := by
  have hdrop := congrArg (List.drop x.length) hc
  rw [List.drop_left, content, List.drop_take, List.drop_drop, hsize, List.length_append,
    Nat.add_sub_cancel_left] at hdrop
  rw [content, hbuf, hrest, hdrop]

/-- The pending bytes are moved to the front. -/
lemma content_shift {b : RecvBuffer} {gap : ℕ} (h : gap + b.size ≤ b.buffer.length) :
    (b.shift gap).content 0 = b.content gap := by
  have hlen := length_content h
  simp only [content, shift, List.drop_zero] at hlen ⊢
  rw [List.take_append_of_le_length (by omega), List.take_take, Nat.min_self]

/-- Shifting the content keeps the capacity. -/
lemma length_buffer_shift {b : RecvBuffer} {gap : ℕ} (h : gap + b.size ≤ b.buffer.length) :
    (b.shift gap).buffer.length = b.buffer.length := by
  have hlen := length_content h
  simp only [content, shift, List.length_append, List.length_drop] at hlen ⊢
  omega

/-- The count for shrinking changes no byte. -/
@[simp] lemma buffer_calculateShrinkCount (cfg : RecvConfig) (b : RecvBuffer) :
    (b.calculateShrinkCount cfg).buffer = b.buffer := by
  unfold calculateShrinkCount
  split_ifs <;> rfl

/-- The count for shrinking changes no size. -/
@[simp] lemma size_calculateShrinkCount (cfg : RecvConfig) (b : RecvBuffer) :
    (b.calculateShrinkCount cfg).size = b.size := by
  unfold calculateShrinkCount
  split_ifs <;> rfl

/-! ## Waiting for more bytes -/

/-- The buffer waits for more bytes behind the pending bytes `p`: the room offered to the socket is
in the buffer, and no capacity is known to be missing. -/
structure Ready (b : RecvBuffer) (p : List UInt8) : Prop where
  content : b.content 0 = p
  size : b.size = p.length
  room : b.size + b.offered ≤ b.buffer.length
  missing : b.missingCapacity = 0

/-- `receive` keeps the pending bytes and offers room that is there. -/
lemma ready_receive (cfg : RecvConfig) {b : RecvBuffer} (h : b.size ≤ b.buffer.length) :
    (b.receive cfg).Ready (b.content 0) := by
  have hsize : b.size = (b.content 0).length := (length_content (by omega)).symm
  unfold receive
  dsimp only
  split_ifs with hmiss hcap hshrink
  · exact ⟨content_resize h (by omega), hsize, (length_buffer_resize b _).ge, rfl⟩
  · exact ⟨rfl, hsize, by dsimp only; omega, rfl⟩
  · refine ⟨content_resize h (by omega), hsize, ?_, not_not.mp hmiss⟩
    change b.size + cfg.initialSize ≤ (b.resize cfg.initialSize).buffer.length
    rw [length_buffer_resize]
    omega
  · exact ⟨rfl, hsize, by dsimp only; omega, not_not.mp hmiss⟩

/-- `receive` offers some room if capacity is known to be missing or the buffer is not full. -/
lemma offered_receive_pos (cfg : RecvConfig) {b : RecvBuffer}
    (h : b.missingCapacity ≠ 0 ∨ b.size < b.buffer.length) : 0 < (b.receive cfg).offered := by
  unfold receive
  dsimp only
  split_ifs with hmiss hcap hshrink
  · exact Nat.pos_of_ne_zero fun h0 => hmiss (UInt32.toNat_inj.mp h0)
  · exact Nat.pos_of_ne_zero fun h0 => hmiss (UInt32.toNat_inj.mp h0)
  · exact cfg.initialSize_pos
  · have hlt := h.resolve_left hmiss
    exact Nat.sub_pos_of_lt hlt

/-- Moving the pending bytes to the front forgets missing capacity only if there is room for it. -/
lemma shift_missing {b : RecvBuffer} {gap : ℕ} (hfit : gap + b.size ≤ b.buffer.length)
    (h : b.missingCapacity ≠ 0 ∨ b.size < b.buffer.length) :
    (b.shift gap).missingCapacity ≠ 0 ∨ (b.shift gap).size < (b.shift gap).buffer.length := by
  rw [length_buffer_shift hfit]
  simp only [shift]
  split_ifs with hroom
  · right
    have hpos : 0 < b.missingCapacity.toNat :=
      Nat.pos_of_ne_zero fun h0 => hroom.1 (UInt32.toNat_inj.mp h0)
    omega
  · exact h

/-- A new endpoint waits for its first bytes. -/
lemma ready_init (cfg : RecvConfig) : ((init cfg).receive cfg).Ready [] :=
  ready_receive cfg (Nat.zero_le _)

/-- Bytes that fit into the room are pending behind the ones before. -/
lemma Ready.store {b : RecvBuffer} {p c : List UInt8} (h : b.Ready p) (hc : c.length ≤ b.offered) :
    (b.store c).content 0 = p ++ c ∧ (b.store c).size = (p ++ c).length ∧
      (b.store c).size ≤ (b.store c).buffer.length := by
  have hroom := h.room
  have hfit : b.size + c.length ≤ b.buffer.length := by omega
  refine ⟨by rw [content_store hfit, h.content], ?_, ?_⟩
  · rw [List.length_append, ← h.size]
    rfl
  · rw [length_buffer_store hfit]
    exact hfit

end RecvBuffer

end Vsomeip
