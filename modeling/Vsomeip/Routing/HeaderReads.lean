import Mathlib.Logic.Relation
import Vsomeip.Endpoints.Udp
import Vsomeip.Lib.Checked
import Vsomeip.Routing.SharedSerializer

set_option relaxedAutoImplicit false
set_option autoImplicit false

/-!
# Reading the headers of received messages

The servers, `on_error`, `send_error` and `send` read fields of the SOME/IP header at fixed positions.
Their guards compare the size of the message with the size of the first half of the header, or with the
last position of a field instead of its end, so that a byte behind the message can be read.

The functions are computations that stop when a byte outside of the message is read, or when a range
ends before it starts.

## Main definitions

* `Vsomeip.MessageRange` — a message in a buffer.
* `Vsomeip.TcpServer.header`, `Vsomeip.UdpServer.headerIn` — what a round of a receive loop reads.
* `Vsomeip.RoutingManager.sendError`, `Vsomeip.RoutingManager.onError`,
  `Vsomeip.RoutingManager.send` — the functions of the routing manager.

## Main results

* `Vsomeip.RoutingManager.headers_inside_iff` — when all bytes that are read are inside of a message.
* `Vsomeip.RoutingManager.headers_eq_of_inside` — what is read then.
-/

namespace Vsomeip

open Checked

/-- A byte outside of the message is read, or a range ends before it starts. -/
inductive HeaderFault
  | outside
  | reversed

/-- A message in a buffer: its bytes are those from `first` on, and before `last`. -/
structure MessageRange where
  buffer : List UInt8
  first : ℕ
  last : ℕ

namespace MessageRange

variable (m : MessageRange)

/-- A byte of the buffer. -/
def byte (pos : ℕ) : Except HeaderFault UInt8 :=
  guarded (m.first ≤ pos ∧ pos < m.last) .outside (m.buffer.getD pos 0)

/-- Two bytes in network byte order. -/
def word (pos : ℕ) : Except HeaderFault UInt16 := do
  let high ← m.byte pos
  let low ← m.byte (pos + 1)
  pure (bytesToWord high low)

/-- Two bytes, as `memcpy` copies them. -/
def copied (pos : ℕ) : Except HeaderFault UInt16 := do
  let low ← m.byte pos
  let high ← m.byte (pos + 1)
  pure (bytesToWord high low)

/-- A byte can be read inside the range of the message. -/
lemma fine_byte_iff {pos : ℕ} : Fine (m.byte pos) ↔ m.first ≤ pos ∧ pos < m.last := fine_guarded_iff

/-- Two bytes can be read inside the range of the message. -/
lemma fine_word_iff {pos : ℕ} : Fine (m.word pos) ↔ m.first ≤ pos ∧ pos + 1 < m.last := by
  rw [word, fine_bind_iff_and fun _ => fine_bind_pure_iff, fine_byte_iff, fine_byte_iff]
  omega

/-- Two bytes can be copied inside the range of the message. -/
lemma fine_copied_iff {pos : ℕ} : Fine (m.copied pos) ↔ m.first ≤ pos ∧ pos + 1 < m.last := by
  rw [copied, fine_bind_iff_and fun _ => fine_bind_pure_iff, fine_byte_iff, fine_byte_iff]
  omega

end MessageRange

/-! ## The TCP server -/

namespace TcpServer

/-- The message that a round forwards, or takes for a cookie: one that is complete and, with magic
cookies enabled, has no cookie in it. -/
def forwarded (l : TcpLoop) : Option MessageRange :=
  let currentMessageSize := (getMessageSize l.front l.recv.size).toNat
  if currentMessageSize > someipHeaderSize ∧ currentMessageSize ≤ l.recv.size ∧
      ¬ (¬ l.isMagicCookie clientCookie ∧ l.magicCookiesEnabled ∧
        findMagicCookie clientCookie l.front l.recv.size < currentMessageSize) then
    some ⟨l.recv.buffer, l.iterationGap, l.iterationGap + currentMessageSize⟩
  else none

/-- What a round reads of the header of a message that it forwards. -/
def header (l : TcpLoop) : Except HeaderFault (List TcpEvent) :=
  match forwarded l with
  | some m => do
    let type ← m.byte (l.iterationGap + 14)
    if isRequest type then
      let client ← m.copied (l.iterationGap + 8)
      let session ← m.copied (l.iterationGap + 10)
      pure [.request client session]
    else pure []
  | none => pure []

/-- The loop of `receive_cbk` comes to a state, for received bytes. -/
def Visits (cfg : RecvConfig) (r : TcpReceiver) (bytes : List UInt8) (l : TcpLoop) : Prop :=
  bytes ≠ [] ∧
    Relation.ReflTransGen (fun l₁ l₂ => round cfg l₁ = (l₂, .again) ∧ l₂.recv.size ≠ 0)
      ⟨r.recv.store bytes, r.magicCookiesEnabled, 0, []⟩ l

end TcpServer

/-! ## The UDP server -/

namespace UdpServer

/-- What a round reads of the header of a message. If the length field is wrong, the service is read at
the beginning of the datagram. -/
def headerIn (isJoined : Bool) (recvBuffer : List UInt8) (l : UdpLoop) :
    Except HeaderFault (List UdpEvent) :=
  let currentMessageSize := (getMessageSize (recvBuffer.drop l.i) l.remainingBytes).toNat
  if currentMessageSize > someipHeaderSize ∧ currentMessageSize ≤ l.remainingBytes then do
    let m : MessageRange := ⟨recvBuffer, l.i, l.i + currentMessageSize⟩
    let itsService ← m.word l.i
    let type ← m.byte (l.i + 14)
    if isRequest type then
      let client ← m.copied (l.i + 8)
      let session ← m.copied (l.i + 10)
      pure [.request client session]
    else if itsService ≠ sdService ∧ type = 0x02 ∧ isJoined then pure [.joined]
    else pure []
  else if l.remainingBytes > 1 then do
    let m : MessageRange := ⟨recvBuffer, l.i, l.i + l.remainingBytes⟩
    let itsService ← m.word 0
    if itsService ≠ sdService ∧ currentMessageSize ≠ 0 then
      pure [.onError ((recvBuffer.drop l.i).take l.remainingBytes)]
    else pure []
  else pure []

/-- The loop of `receive_cbk` comes to a state, for the received bytes of a datagram. -/
def Visits (isJoined : Bool) (r : UdpReceiver) (datagram : List UInt8) (l : UdpLoop) : Prop :=
  r.received datagram ≠ [] ∧
    Relation.ReflTransGen (fun l₁ l₂ => round isJoined (r.store (r.received datagram)) l₁ = .inl l₂)
      ⟨0, (r.received datagram).length, []⟩ l

end UdpServer

/-! ## The routing manager -/

namespace RoutingManager

/-- `routing_manager_impl::send_error`, up to the message that it makes. -/
def sendError (returnCode : UInt8) (data : List UInt8) : Except HeaderFault MessageImpl := do
  let m : MessageRange := ⟨data, 0, data.length⟩
  let itsClient ← (if data.length ≥ 9 then m.word 8 else pure 0 : Except HeaderFault UInt16)
  let itsService ← (if data.length ≥ 1 then m.word 0 else pure 0 : Except HeaderFault UInt16)
  let itsMethod ← (if data.length ≥ 3 then m.word 2 else pure 0 : Except HeaderFault UInt16)
  let itsSession ← (if data.length ≥ 11 then m.word 10 else pure 0 : Except HeaderFault UInt16)
  let itsVersion ← (if data.length ≥ 13 then m.byte 13 else pure 0 : Except HeaderFault UInt8)
  pure { header :=
          { service := itsService, method := itsMethod, length := 0, client := itsClient,
            session := itsSession, protocolVersion := 0x01, interfaceVersion := itsVersion,
            type := 0x81, code := returnCode }
         payload := some [] }

/-- `routing_manager_impl::on_error`, with the instance that it finds and the message. -/
def onError (findInstance : UInt16 → UInt16) (data : List UInt8) :
    Except HeaderFault (UInt16 × MessageImpl) := do
  let m : MessageRange := ⟨data, 0, data.length⟩
  let itsInstance ← (if data.length ≥ 1 then m.word 0 >>= fun itsService =>
    pure (findInstance itsService) else pure 0 : Except HeaderFault UInt16)
  let message ← sendError 0x09 data
  pure (itsInstance, message)

/-- What `send` looks up: the client of the routing manager itself, the endpoints and the clients of
local services, the endpoints of remote services, and the protectors. -/
structure SendTables where
  client : UInt16
  findLocal : UInt16 → UInt16 → Bool
  findLocalEndpoint : UInt16 → Bool
  findLocalClient : UInt16 → UInt16 → UInt16
  findRemoteClient : UInt16 → UInt16 → Bool
  e2e : CustomProtectors

/-- A message goes to a local client or to the application itself. -/
def SendTables.isLocal (t : SendTables) (client : UInt16) (type : UInt8)
    (itsClient itsService instance_ : UInt16) : Bool :=
  if isRequest type then
    t.findLocal itsService instance_ || t.findLocalClient itsService instance_ = t.client
  else if type = 0x02 then
    client ≠ 0 && (client = t.client || t.findLocalEndpoint client) || itsClient = t.client
  else t.findLocalEndpoint itsClient || itsClient = t.client

/-- The protector for a message, which is not one of service discovery. -/
def SendTables.protector (t : SendTables) (itsService itsMethod : UInt16) :
    Option ProfileCustom.Config :=
  if t.e2e.isE2eEnabled ∧ ¬ (itsService = sdService ∧ itsMethod = 0x8100) then
    t.e2e.customProtectors itsService itsMethod
  else none

/-- The part of `send` that protects the payload. -/
def SendTables.protect (t : SendTables) (itsService itsMethod : UInt16) (data : List UInt8) :
    Except HeaderFault (List UInt8) :=
  match t.protector itsService itsMethod with
  | some cfg => do
    let inputBuffer ← guarded (16 ≤ data.length) .reversed (data.drop 16)
    pure (data.take 16 ++ ProfileCustom.protect cfg inputBuffer)
  | none => pure data

/-- `routing_manager_impl::send`, with what goes on to other devices. -/
def send (t : SendTables) (client : UInt16) (data : List UInt8) (instance_ : UInt16) :
    Except HeaderFault (Option (List UInt8)) := do
  if data.length > 14 then
    let m : MessageRange := ⟨data, 0, data.length⟩
    let type ← m.byte 14
    let itsClient ← m.word 8
    let itsService ← m.word 0
    let itsMethod ← m.word 2
    if t.isLocal client type itsClient itsService instance_ then pure none
    else
      let data' ← t.protect itsService itsMethod data
      if isRequest type ∧ ¬ t.findRemoteClient itsService instance_ then
        let _itsSession ← m.word 10
        pure none
      else pure (some data')
  else pure none

/-- The payload of a message is handed to a protector. -/
def SendTables.Protects (t : SendTables) (client : UInt16) (data : List UInt8) (instance_ : UInt16) :
    Prop :=
  t.isLocal client (data.getD 14 0) (bytesToWord (data.getD 8 0) (data.getD 9 0))
      (bytesToWord (data.getD 0 0) (data.getD 1 0)) instance_ = false ∧
    (t.protector (bytesToWord (data.getD 0 0) (data.getD 1 0))
      (bytesToWord (data.getD 2 0) (data.getD 3 0))).isSome

end RoutingManager

/-! ## What is read -/

namespace MessageRange

variable {m : MessageRange}

/-- What reading a byte of the message returns. -/
lemma byte_of {pos : ℕ} (h : m.first ≤ pos ∧ pos < m.last) : m.byte pos = .ok (m.buffer.getD pos 0) :=
  guarded_of h _ _

/-- What reading two bytes of the message returns. -/
lemma word_of {pos : ℕ} (h : m.first ≤ pos ∧ pos + 1 < m.last) :
    m.word pos = .ok (bytesToWord (m.buffer.getD pos 0) (m.buffer.getD (pos + 1) 0)) := by
  rw [word, byte_of ⟨h.1, by omega⟩, byte_of ⟨by omega, h.2⟩]
  rfl

/-- What copying two bytes of the message returns, in host order. -/
lemma copied_of {pos : ℕ} (h : m.first ≤ pos ∧ pos + 1 < m.last) :
    m.copied pos = .ok (bytesToWord (m.buffer.getD (pos + 1) 0) (m.buffer.getD pos 0)) := by
  rw [copied, byte_of ⟨h.1, by omega⟩, byte_of ⟨by omega, h.2⟩]
  rfl

/-- Reading two bytes if a condition holds that puts them inside the message. -/
lemma word_of_guard {c : Prop} [Decidable c] {pos : ℕ} (h : c → m.first ≤ pos ∧ pos + 1 < m.last) :
    (if c then m.word pos else pure 0) =
      .ok (if c then bytesToWord (m.buffer.getD pos 0) (m.buffer.getD (pos + 1) 0) else 0) := by
  split_ifs with hc
  · exact word_of (h hc)
  · rfl

/-- Reading a byte if a condition holds that puts it inside the message. -/
lemma byte_of_guard {c : Prop} [Decidable c] {pos : ℕ} (h : c → m.first ≤ pos ∧ pos < m.last) :
    (if c then m.byte pos else pure 0) = .ok (if c then m.buffer.getD pos 0 else 0) := by
  split_ifs with hc
  · exact byte_of (h hc)
  · rfl

end MessageRange

/-- A byte of what is left of a buffer. -/
lemma getD_drop (buffer : List UInt8) (i pos : ℕ) :
    (buffer.drop i).getD pos 0 = buffer.getD (i + pos) 0 := by
  simp only [List.getD_eq_getElem?_getD, List.getElem?_drop]

namespace TcpServer

/-- The message that a TCP loop forwards starts at the gap. -/
lemma first_of_forwarded {l : TcpLoop} {m : MessageRange} (h : forwarded l = some m) :
    m.first = l.iterationGap := by
  rw [forwarded] at h
  split at h
  · rw [← Option.some.inj h]
  · exact absurd h (by simp)

/-- The type of a message is read, whatever its size is. -/
lemma fine_header_iff (l : TcpLoop) :
    Fine (header l) ↔ ∀ m, forwarded l = some m → 15 ≤ m.last - m.first := by
  rw [header]
  cases hforwarded : forwarded l with
  | none => simp
  | some m =>
    have hfirst := first_of_forwarded hforwarded
    simp only [Option.some.injEq, forall_eq']
    constructor
    · intro h
      have hbyte := m.fine_byte_iff.mp h.of_bind
      omega
    · intro h
      refine (m.fine_byte_iff.mpr (by omega)).bind fun type => ?_
      split
      · refine (m.fine_copied_iff.mpr (by omega)).bind fun client => ?_
        exact fine_bind_pure_iff.mpr (m.fine_copied_iff.mpr (by omega))
      · exact fine_pure _

/-- If only the message is read, what is read is what the callback keeps. -/
lemma header_eq_requests {l : TcpLoop} {m : MessageRange} (h : forwarded l = some m)
    (hfine : Fine (header l)) : header l = .ok (requests l.front) := by
  have hlength := (fine_header_iff l).mp hfine m h
  have hfirst := first_of_forwarded h
  have hbuffer : m.buffer = l.recv.buffer := by
    rw [forwarded] at h
    split at h
    · rw [← Option.some.inj h]
    · exact absurd h (by simp)
  simp only [header, h, requests, TcpLoop.front, getD_drop]
  rw [MessageRange.byte_of (by omega), ok_bind, MessageRange.copied_of (by omega),
    MessageRange.copied_of (by omega), hbuffer]
  split_ifs <;> rfl

end TcpServer

namespace UdpServer

variable {isJoined : Bool} {recvBuffer m x : List UInt8} {l : UdpLoop}

/-- The type of a message is read, whatever its size is. -/
lemma fine_headerIn_full_iff (hm : UdpMessage m) (h : l.Holds recvBuffer (m ++ x)) :
    Fine (headerIn isJoined recvBuffer l) ↔ 15 ≤ m.length := by
  obtain ⟨hsize, hlarge, hfits, -⟩ := h.size_eq hm
  simp only [headerIn, hsize, if_pos (And.intro hlarge hfits)]
  constructor
  · intro hfine
    obtain ⟨_, hrest⟩ := hfine.exists_of_bind
    have hbyte := (MessageRange.fine_byte_iff _).mp hrest.of_bind
    dsimp only at hbyte
    omega
  · intro hlength
    refine ((MessageRange.fine_word_iff _).mpr ⟨le_rfl, by dsimp only; omega⟩).bind fun itsService => ?_
    refine ((MessageRange.fine_byte_iff _).mpr (by dsimp only; omega)).bind fun type => ?_
    split
    · refine ((MessageRange.fine_copied_iff _).mpr (by dsimp only; omega)).bind fun client => ?_
      exact fine_bind_pure_iff.mpr ((MessageRange.fine_copied_iff _).mpr (by dsimp only; omega))
    · split <;> exact fine_pure _

/-- If only the message is read, what is read is what the callback keeps. -/
lemma headerIn_eq_header (hm : UdpMessage m) (h : l.Holds recvBuffer (m ++ x))
    (hfine : Fine (headerIn isJoined recvBuffer l)) :
    headerIn isJoined recvBuffer l = .ok (header isJoined (recvBuffer.drop l.i)) := by
  have hlength := (fine_headerIn_full_iff hm h).mp hfine
  obtain ⟨hsize, hlarge, hfits, -⟩ := h.size_eq hm
  simp only [headerIn, hsize, if_pos (And.intro hlarge hfits), header, serviceOf, getD_drop]
  rw [MessageRange.word_of (by dsimp only; omega), ok_bind, MessageRange.byte_of (by dsimp only; omega),
    ok_bind, MessageRange.copied_of (by dsimp only; omega),
    MessageRange.copied_of (by dsimp only; omega)]
  dsimp only [Nat.add_zero]
  split_ifs <;> rfl

/-- The service of a message with a wrong length field is read at the beginning of the datagram. -/
lemma fine_headerIn_part_iff (hx : ∀ m, UdpMessage m → ¬ m <+: x) (h : l.Holds recvBuffer x) :
    Fine (headerIn isJoined recvBuffer l) ↔ x.length ≤ 1 ∨ l.i = 0 := by
  have hremaining := h.remaining
  simp only [headerIn, if_neg (h.not_full hx)]
  split
  · constructor
    · intro hfine
      have hword := (MessageRange.fine_word_iff _).mp hfine.of_bind
      dsimp only at hword
      omega
    · intro hstart
      refine ((MessageRange.fine_word_iff _).mpr (by dsimp only; omega)).bind fun itsService => ?_
      split <;> exact fine_pure _
  · exact iff_of_true (fine_pure _) (Or.inl (by omega))

variable (isJoined) in
/-- What the rounds of a datagram read lies inside, if its messages have a type, and if the rest is not
looked at or is all of the datagram.

**Proof sketch.** Induction on the messages. The loop comes to a message and then to what follows. -/
lemma fine_visited_iff {ms : List (List UInt8)} {rest : List UInt8}
    (hx : Framing.Maximal UdpMessage x ms rest) (h : l.Holds recvBuffer x) (hne : x ≠ []) :
    (∀ l', Relation.ReflTransGen (fun l₁ l₂ => round isJoined recvBuffer l₁ = .inl l₂) l l' →
        Fine (headerIn isJoined recvBuffer l')) ↔
      (∀ m ∈ ms, 15 ≤ m.length) ∧ (rest.length ≤ 1 ∨ ms = [] ∧ l.i = 0) := by
  have hhead (l₀ : UdpLoop) : (∀ l', Relation.ReflTransGen (fun l₁ l₂ =>
        round isJoined recvBuffer l₁ = .inl l₂) l₀ l' → Fine (headerIn isJoined recvBuffer l')) ↔
      Fine (headerIn isJoined recvBuffer l₀) ∧ ∀ l₁, round isJoined recvBuffer l₀ = .inl l₁ →
        ∀ l', Relation.ReflTransGen (fun l₁ l₂ => round isJoined recvBuffer l₁ = .inl l₂) l₁ l' →
          Fine (headerIn isJoined recvBuffer l') := by
    constructor
    · intro hall
      exact ⟨hall l₀ .refl, fun l₁ hround l' hvisits => hall l' (.head hround hvisits)⟩
    · rintro ⟨hfine, hrest⟩ l' hvisits
      rcases hvisits.cases_head with rfl | ⟨l₁, hround, hvisits⟩
      · exact hfine
      · exact hrest l₁ hround l' hvisits
  induction ms generalizing x l with
  | nil =>
    rw [hhead]
    obtain rfl : x = rest := hx.split
    obtain ⟨i, events, hround, -⟩ := (rounds isJoined recvBuffer).part hx.not_frame h
    rw [UdpLoop.next_of_zero rfl] at hround
    rw [fine_headerIn_part_iff hx.not_frame h]
    simp [hround]
  | cons m ms ih =>
    have hm := hx.frames m List.mem_cons_self
    obtain ⟨x, rfl⟩ : ∃ y, x = m ++ y :=
      ⟨ms.flatten ++ rest, by rw [hx.split, List.flatten_cons, List.append_assoc]⟩
    obtain ⟨events, hround, -⟩ := (rounds isJoined recvBuffer).full hm h
    have htail := hx.tail
    rw [hhead, fine_headerIn_full_iff hm h]
    by_cases hempty : x = []
    · subst hempty
      obtain ⟨rfl, rfl⟩ := htail.eq_nil fun f hf => hf.ne_nil
      rw [UdpLoop.next_of_zero rfl] at hround
      simp [hround]
    · rw [UdpLoop.next_of_pos (List.length_pos_iff.mpr hempty)] at hround
      have hrest := ih htail (h.skip (l.events ++ events)) hempty
      have hpos : l.i + m.length ≠ 0 := by
        have := hm.1
        omega
      simp only [hround, Sum.inl.injEq, forall_eq']
      refine (and_congr_right fun _ => hrest).trans ?_
      rw [List.forall_mem_cons, and_assoc]
      refine and_congr_right fun _ => and_congr_right fun _ => or_congr_right ?_
      exact iff_of_false (fun hstart => hpos hstart.2) fun hstart => List.cons_ne_nil m ms hstart.1

end UdpServer

/-! ## The routing manager -/

namespace RoutingManager

/-- The error message is made of bytes of the message, unless a field ends one byte behind it. -/
lemma fine_sendError_iff (returnCode : UInt8) (data : List UInt8) :
    Fine (sendError returnCode data) ↔ data.length ≠ 1 ∧ data.length ≠ 3 ∧ data.length ≠ 9 ∧
      data.length ≠ 11 ∧ data.length ≠ 13 := by
  rw [sendError, fine_bind_iff_and fun _ => fine_bind_iff_and fun _ => fine_bind_iff_and fun _ =>
    fine_bind_iff_and fun _ => fine_bind_pure_iff]
  simp only [fine_ite_pure_iff, MessageRange.fine_word_iff, MessageRange.fine_byte_iff]
  omega

/-- If only the message is read, the error message is the one that is sent. -/
lemma sendError_eq_errorMessage {returnCode : UInt8} {data : List UInt8}
    (hfine : Fine (sendError returnCode data)) :
    sendError returnCode data = .ok (errorMessage returnCode data) := by
  obtain ⟨h1, h3, h9, h11, h13⟩ := (fine_sendError_iff returnCode data).mp hfine
  rw [sendError, MessageRange.word_of_guard (by dsimp only; omega), ok_bind,
    MessageRange.word_of_guard (by dsimp only; omega), ok_bind,
    MessageRange.word_of_guard (by dsimp only; omega), ok_bind,
    MessageRange.word_of_guard (by dsimp only; omega), ok_bind,
    MessageRange.byte_of_guard (by dsimp only; omega)]
  rfl

/-- The instance is found by bytes of the message unless it is one byte only. -/
lemma fine_onError_iff (findInstance : UInt16 → UInt16) (data : List UInt8) :
    Fine (onError findInstance data) ↔ data.length ≠ 1 ∧ data.length ≠ 3 ∧ data.length ≠ 9 ∧
      data.length ≠ 11 ∧ data.length ≠ 13 := by
  rw [onError, fine_bind_iff_and fun _ => fine_bind_pure_iff]
  simp only [fine_ite_pure_iff, fine_bind_pure_iff, MessageRange.fine_word_iff, fine_sendError_iff]
  omega

/-- A protector can read the header of the data if there is one. -/
lemma fine_protect_iff (t : SendTables) (itsService itsMethod : UInt16) (data : List UInt8) :
    Fine (t.protect itsService itsMethod data) ↔
      ((t.protector itsService itsMethod).isSome → 16 ≤ data.length) := by
  rw [SendTables.protect]
  cases t.protector itsService itsMethod with
  | none => simp
  | some cfg =>
    rw [fine_bind_pure_iff, fine_guarded_iff]
    simp

/-- The payload is a range unless the message ends in front of its last header byte. -/
lemma fine_send_iff (t : SendTables) (client : UInt16) (data : List UInt8) (instance_ : UInt16) :
    Fine (send t client data instance_) ↔
      ¬ (data.length = 15 ∧ t.Protects client data instance_) := by
  rw [send]
  split_ifs with hlength
  · dsimp only
    rw [MessageRange.byte_of ⟨Nat.zero_le _, hlength⟩, ok_bind,
      MessageRange.word_of ⟨Nat.zero_le _, by dsimp only; omega⟩, ok_bind,
      MessageRange.word_of ⟨Nat.zero_le _, by dsimp only; omega⟩, ok_bind,
      MessageRange.word_of ⟨Nat.zero_le _, by dsimp only; omega⟩, ok_bind]
    cases hlocal : t.isLocal client (data.getD 14 0) (bytesToWord (data.getD 8 0) (data.getD 9 0))
      (bytesToWord (data.getD 0 0) (data.getD 1 0)) instance_ with
    | true =>
      refine iff_of_true (fine_pure none) fun h => ?_
      exact absurd (hlocal.symm.trans h.2.1) (by decide)
    | false =>
      rw [if_neg Bool.false_ne_true, fine_bind_iff_and (p := True), and_true, fine_protect_iff,
        SendTables.Protects, hlocal]
      · constructor
        · rintro hfits ⟨hshort, -, hprotects⟩
          have hle := hfits hprotects
          omega
        · intro hnot hprotects
          have hne : data.length ≠ 15 := fun hshort => hnot ⟨hshort, rfl, hprotects⟩
          omega
      · intro data'
        refine iff_of_true ?_ trivial
        split
        · exact fine_bind_pure_iff.mpr ((MessageRange.fine_word_iff _).mpr (by dsimp only; omega))
        · exact fine_pure _
  · refine iff_of_true (fine_pure _) fun h => ?_
    omega

/-- **The functions read bytes of their message only, exactly if: every message that the TCP server
forwards, and every message of a datagram, has a type; a rest of a datagram that is looked at is all of
it; no field of a reported message ends one byte behind it; and no message that is to be protected ends
in front of its last header byte.** -/
theorem headers_inside_iff (cfg : RecvConfig) (r : TcpReceiver) (bytes : List UInt8) (isJoined : Bool)
    (udp : UdpReceiver) (datagram : List UInt8) (findInstance : UInt16 → UInt16) (returnCode : UInt8)
    (t : SendTables) (client : UInt16) (data : List UInt8) (instance_ : UInt16) :
    ((∀ l, TcpServer.Visits cfg r bytes l → Fine (TcpServer.header l)) ↔
      ∀ l m, TcpServer.Visits cfg r bytes l → TcpServer.forwarded l = some m →
        15 ≤ m.last - m.first) ∧
    ((∀ l, UdpServer.Visits isJoined udp datagram l →
        Fine (UdpServer.headerIn isJoined (udp.store (udp.received datagram)) l)) ↔
      ∀ ms rest, Framing.Maximal UdpMessage (udp.received datagram) ms rest →
        (∀ m ∈ ms, 15 ≤ m.length) ∧ (rest.length ≤ 1 ∨ ms = [])) ∧
    (Fine (onError findInstance data) ↔ data.length ≠ 1 ∧ data.length ≠ 3 ∧ data.length ≠ 9 ∧
      data.length ≠ 11 ∧ data.length ≠ 13) ∧
    (Fine (sendError returnCode data) ↔ data.length ≠ 1 ∧ data.length ≠ 3 ∧ data.length ≠ 9 ∧
      data.length ≠ 11 ∧ data.length ≠ 13) ∧
    (Fine (send t client data instance_) ↔
      ¬ (data.length = 15 ∧ t.Protects client data instance_)) := by
  refine ⟨?_, ?_, fine_onError_iff findInstance data, fine_sendError_iff returnCode data,
    fine_send_iff t client data instance_⟩
  · simp only [TcpServer.fine_header_iff]
    exact ⟨fun h l m hvisits => h l hvisits m, fun h l hvisits m => h l m hvisits⟩
  · obtain ⟨ms, rest, hunique⟩ := exists_maximal (udp.received datagram)
    simp only [hunique]
    rw [show (∀ ms' rest', ms' = ms ∧ rest' = rest → (∀ m ∈ ms', 15 ≤ m.length) ∧
        (rest'.length ≤ 1 ∨ ms' = [])) ↔ (∀ m ∈ ms, 15 ≤ m.length) ∧ (rest.length ≤ 1 ∨ ms = [])
      from ⟨fun h => h ms rest ⟨rfl, rfl⟩, by rintro h ms' rest' ⟨rfl, rfl⟩; exact h⟩]
    have hmax := (hunique ms rest).mpr ⟨rfl, rfl⟩
    by_cases hne : udp.received datagram = []
    · rw [hne] at hmax
      obtain ⟨rfl, rfl⟩ := hmax.eq_nil fun f hf => hf.ne_nil
      exact iff_of_true (fun l hvisits => absurd hne hvisits.1) ⟨by simp, Or.inr rfl⟩
    · have hfine : _ ↔ (∀ m ∈ ms, 15 ≤ m.length) ∧ (rest.length ≤ 1 ∨ ms = [] ∧ 0 = 0) :=
        UdpServer.fine_visited_iff isJoined hmax (udp.holds_store datagram) hne
      rw [and_iff_left rfl] at hfine
      rw [← hfine]
      exact ⟨fun h l hvisits => h l ⟨hne, hvisits⟩, fun h l hvisits => h l hvisits.2⟩

/-- **Where only the message is read**, a server keeps what it reads, and `send_error` makes the message
that is sent: the functions are those of the servers and of the serializers. -/
theorem headers_eq_of_inside (isJoined : Bool) (returnCode : UInt8) :
    (∀ (l : TcpLoop) (m : MessageRange), TcpServer.forwarded l = some m → Fine (TcpServer.header l) →
        TcpServer.header l = .ok (TcpServer.requests l.front)) ∧
    (∀ {recvBuffer m x : List UInt8} {l : UdpLoop}, UdpMessage m → l.Holds recvBuffer (m ++ x) →
        Fine (UdpServer.headerIn isJoined recvBuffer l) →
        UdpServer.headerIn isJoined recvBuffer l =
          .ok (UdpServer.header isJoined (recvBuffer.drop l.i))) ∧
    ∀ data, Fine (sendError returnCode data) →
      sendError returnCode data = .ok (errorMessage returnCode data) :=
  ⟨fun _ _ => TcpServer.header_eq_requests, UdpServer.headerIn_eq_header,
    fun _ => sendError_eq_errorMessage⟩

/-- A message of nine bytes whose length field says that it has 108 is reported. -/
theorem not_headers_inside : ¬
    ((∀ (cfg : RecvConfig) (r : TcpReceiver) (bytes : List UInt8) (l : TcpLoop),
        TcpServer.Visits cfg r bytes l → Fine (TcpServer.header l)) ∧
      (∀ (isJoined : Bool) (r : UdpReceiver) (datagram : List UInt8) (l : UdpLoop),
        UdpServer.Visits isJoined r datagram l →
          Fine (UdpServer.headerIn isJoined (r.store (r.received datagram)) l)) ∧
      (∀ (findInstance : UInt16 → UInt16) (data : List UInt8), Fine (onError findInstance data)) ∧
      (∀ (returnCode : UInt8) (data : List UInt8), Fine (sendError returnCode data)) ∧
      ∀ (t : SendTables) (client : UInt16) (data : List UInt8) (instance_ : UInt16),
        Fine (send t client data instance_)) := by
  rintro ⟨-, -, honError, -, -⟩
  obtain ⟨result, hresult⟩ :=
    honError (fun _ => 0) [0x11, 0x11, 0x00, 0x01, 0x00, 0x00, 0x00, 0x64, 0x00]
  cases hresult

end RoutingManager

end Vsomeip
