import Mathlib.Data.List.GetD
import Vsomeip.Endpoints.Tcp
import Vsomeip.Lib.Framing
import Vsomeip.Lib.Loop

set_option relaxedAutoImplicit false
set_option autoImplicit false

/-!
# Receiving over UDP

`udp_server_endpoint_impl::receive_cbk` and `udp_client_endpoint_impl::receive_cbk`. A datagram holds
one or more messages. Both endpoints take one message after the other from its front, until a length
field is wrong, and wait for the next datagram then. The server leaves out a message of service
discovery if more bytes than its own follow, and it remembers who sent a request.

The socket writes a datagram to the front of the receive buffer, at most as many bytes of it as a
message may have. What a longer datagram has left there before stays behind it.

## Main definitions

* `Vsomeip.UdpReceiver` — a receiving UDP endpoint.
* `Vsomeip.UdpServer.receiveCbk`, `Vsomeip.UdpClient.receiveCbk` — the callbacks.
* `Vsomeip.UdpMessage` — a message with a consistent length field.
* `Vsomeip.UdpServer.leavesOut`, `Vsomeip.delivered` — the messages that the server leaves out, and
  those that are left.
* `Vsomeip.UdpRounds` — what a round of either loop does.

## Main results

* `Vsomeip.UdpRounds.returns` — what the whole loop does.
* `Vsomeip.UdpReceiver.splits_datagram` — both endpoints deliver the messages in front of a datagram
  and wait for the next one.
-/

namespace Vsomeip

/-! ## The callbacks -/

/-- The errors that the UDP endpoints distinguish. -/
inductive UdpError
  | success
  | operationAborted
  | connectionRefused
  | other
deriving DecidableEq

/-- What a receiving UDP endpoint does to the outside: it hands a message or an error to its host, and
the server remembers the remote of a request by its client and session, or that a notification came
to a multicast group. -/
inductive UdpEvent
  | onMessage (bytes : List UInt8)
  | onError (bytes : List UInt8)
  | request (client session : UInt16)
  | joined
deriving DecidableEq

/-- The messages among the events. -/
def UdpEvent.messages (events : List UdpEvent) : List (List UInt8) :=
  events.filterMap fun
    | .onMessage bytes => some bytes
    | _ => none

/-- The reported errors among the events. -/
def UdpEvent.errors (events : List UdpEvent) : List (List UInt8) :=
  events.filterMap fun
    | .onError bytes => some bytes
    | _ => none

/-- A receiving UDP endpoint: its buffer, the number of bytes that it offers to the socket, and whether
it waits for the socket. -/
structure UdpReceiver where
  recvBuffer : List UInt8
  maxMessageSize : UInt32
  receiving : Bool

/-- The variables of the loop in `receive_cbk`, and what was done in it. -/
structure UdpLoop where
  i : ℕ
  remainingBytes : ℕ
  events : List UdpEvent

/-- The end of a round: the loop goes on if bytes remain. -/
def UdpLoop.next (l : UdpLoop) : UdpLoop ⊕ UdpLoop := if l.remainingBytes > 0 then .inl l else .inr l

namespace UdpReceiver

variable (r : UdpReceiver)

/-- What the socket takes of a datagram. -/
def received (datagram : List UInt8) : List UInt8 := datagram.take r.maxMessageSize.toNat

/-- The buffer behind the socket. -/
def store (bytes : List UInt8) : List UInt8 := bytes ++ r.recvBuffer.drop bytes.length

/-- `receive`, on an open socket. -/
def receive : UdpReceiver := { r with receiving := true }

/-- The part of a `receive_cbk` for received bytes: the loop and the next `receive`. -/
def process (round : List UInt8 → UdpLoop → UdpLoop ⊕ UdpLoop) (bytes : List UInt8) (fuel : ℕ) :
    Option (UdpReceiver × List UdpEvent) :=
  (Loop.run (round (r.store bytes)) ⟨0, bytes.length, []⟩ fuel).map fun l =>
    ({ r with recvBuffer := r.store bytes }.receive, l.events)

end UdpReceiver

/-- `VSOMEIP_SD_SERVICE`. -/
def sdService : UInt16 := 0xFFFF

/-- The service of the message in front of some bytes. -/
def serviceOf (data : List UInt8) : UInt16 := bytesToWord (data.getD 0 0) (data.getD 1 0)

namespace UdpServer

/-- What the server keeps of the header of a message: who sent it, if it is a request, and that its
group is used, if it is a notification. `isJoined` says whether the destination of the datagram is a
group that was joined. -/
def header (isJoined : Bool) (front : List UInt8) : List UdpEvent :=
  if isRequest (front.getD 14 0) then
    [.request (bytesToWord (front.getD 9 0) (front.getD 8 0))
      (bytesToWord (front.getD 11 0) (front.getD 10 0))]
  else if serviceOf front ≠ sdService ∧ front.getD 14 0 = 0x02 ∧ isJoined then [.joined]
  else []

/-- A round of the loop in `udp_server_endpoint_impl::receive_cbk`. The test that fewer bytes remain
than a message has that fits never holds. -/
def round (isJoined : Bool) (recvBuffer : List UInt8) (l : UdpLoop) : UdpLoop ⊕ UdpLoop :=
  let front := recvBuffer.drop l.i
  let currentMessageSize := (getMessageSize front l.remainingBytes).toNat
  if currentMessageSize > someipHeaderSize ∧ currentMessageSize ≤ l.remainingBytes then
    let remainingBytes := l.remainingBytes - currentMessageSize
    let message := if serviceOf front ≠ sdService ∨
        currentMessageSize > someipHeaderSize ∧ currentMessageSize ≥ remainingBytes then
      [.onMessage (front.take currentMessageSize)] else []
    UdpLoop.next ⟨l.i + currentMessageSize, remainingBytes,
      l.events ++ (header isJoined front ++ message)⟩
  else
    let error := if l.remainingBytes > 1 ∧ serviceOf recvBuffer ≠ sdService ∧
        currentMessageSize ≠ 0 then [.onError (front.take l.remainingBytes)] else []
    UdpLoop.next ⟨l.i, 0, l.events ++ error⟩

/-- `udp_server_endpoint_impl::receive_cbk`. -/
def receiveCbk (r : UdpReceiver) (error : UdpError) (datagram : List UInt8) (isJoined : Bool)
    (fuel : ℕ) : Option (UdpReceiver × List UdpEvent) :=
  if error = .success ∧ r.received datagram ≠ [] then
    r.process (round isJoined) (r.received datagram) fuel
  else some (r.receive, [])

end UdpServer

namespace UdpClient

/-- A round of the loop in `udp_client_endpoint_impl::receive_cbk`. -/
def round (recvBuffer : List UInt8) (l : UdpLoop) : UdpLoop ⊕ UdpLoop :=
  let front := recvBuffer.drop l.i
  let currentMessageSize := (getMessageSize front l.remainingBytes).toNat
  if currentMessageSize > someipHeaderSize ∧ currentMessageSize ≤ l.remainingBytes then
    UdpLoop.next ⟨l.i + currentMessageSize, l.remainingBytes - currentMessageSize,
      l.events ++ [.onMessage (front.take currentMessageSize)]⟩
  else UdpLoop.next ⟨l.i + currentMessageSize, 0, l.events⟩

/-- `udp_client_endpoint_impl::receive_cbk`. The socket is closed if the connection is refused. -/
def receiveCbk (r : UdpReceiver) (error : UdpError) (datagram : List UInt8) (fuel : ℕ) :
    Option (UdpReceiver × List UdpEvent) :=
  if error = .operationAborted ∨ error = .connectionRefused then
    some ({ r with receiving := false }, [])
  else if error = .success ∧ r.received datagram ≠ [] then r.process round (r.received datagram) fuel
  else some (r.receive, [])

end UdpClient

/-! ## Messages -/

/-- A message whose length field says how long it is, without overflow. -/
def UdpMessage (m : List UInt8) : Prop :=
  8 < m.length ∧
    m.length = 8 + (bytesToLong (m.getD 4 0) (m.getD 5 0) (m.getD 6 0) (m.getD 7 0)).toNat

/-- The messages that are handed on, with `rest` behind them, if an endpoint leaves out some because of
the number of bytes that follow. -/
def delivered (leavesOut : List UInt8 → ℕ → Bool) (rest : List UInt8) :
    List (List UInt8) → List (List UInt8)
  | [] => []
  | m :: ms =>
    if leavesOut m (ms.flatten ++ rest).length then delivered leavesOut rest ms
    else m :: delivered leavesOut rest ms

/-- The server leaves out a message of service discovery if more bytes follow than it has itself. -/
def UdpServer.leavesOut (m : List UInt8) (n : ℕ) : Bool := serviceOf m = sdService ∧ m.length < n

/-- The client leaves out nothing. -/
def UdpClient.leavesOut (_ : List UInt8) (_ : ℕ) : Bool := false

section Message

variable {m m' x d : List UInt8}

/-- A message is not empty. -/
lemma UdpMessage.ne_nil (h : UdpMessage m) : m ≠ [] := by
  rintro rfl
  exact absurd h.1 (by decide)

/-- The bytes of a message that stands in front. -/
lemma getD_prefix_eq (h : m <+: d) {i : ℕ} (hi : i < m.length) : d.getD i 0 = m.getD i 0 := by
  obtain ⟨x, rfl⟩ := h
  exact List.getD_append m x 0 i hi

/-- One message at most is in front. -/
lemma UdpMessage.eq_of_front (h : UdpMessage m) (h' : UdpMessage m') (hm : m <+: d)
    (hm' : m' <+: d) : m = m' := by
  obtain ⟨hpos, hlength⟩ := h
  obtain ⟨hpos', hlength'⟩ := h'
  have hbyte (i : ℕ) (hi : i < 8) : m.getD i 0 = m'.getD i 0 :=
    (getD_prefix_eq hm (by omega)).symm.trans (getD_prefix_eq hm' (by omega))
  have heq : m.length = m'.length := by
    rw [hlength, hlength', hbyte 4 (by omega), hbyte 5 (by omega), hbyte 6 (by omega),
      hbyte 7 (by omega)]
  exact (List.prefix_of_prefix_length_le hm hm' heq.le).eq_of_length heq

/-- The size of a message that is in front is found. -/
lemma UdpMessage.getMessageSize_eq (h : UdpMessage m) (hm : m <+: d) {n : ℕ} (hn : m.length ≤ n)
    (hlt : n < 2 ^ 32) : (getMessageSize d n).toNat = m.length := by
  obtain ⟨hpos, hlength⟩ := h
  rw [getMessageSize, someipHeaderSize, if_pos (by omega), getD_prefix_eq hm (by omega),
    getD_prefix_eq hm (by omega), getD_prefix_eq hm (by omega), getD_prefix_eq hm (by omega),
    UInt32.toNat_add]
  change (8 + _) % 2 ^ 32 = _
  rw [Nat.mod_eq_of_lt (by omega), ← hlength]

/-- What the loops take for a message is one: a length field for which the size overflows gives a
size of at most 7. -/
lemma udpMessage_take {n : ℕ} (hn : n ≤ d.length)
    (h : (getMessageSize d n).toNat > someipHeaderSize ∧ (getMessageSize d n).toNat ≤ n) :
    UdpMessage (d.take (getMessageSize d n).toNat) := by
  obtain ⟨hlarge, hfits⟩ := h
  set size := (getMessageSize d n).toNat with hsize
  rw [someipHeaderSize] at hlarge
  have hlength : (d.take size).length = size := by
    rw [List.length_take]
    omega
  have hpre := List.take_prefix size d
  have hbyte (i : ℕ) (hi : i < 8) : (d.take size).getD i 0 = d.getD i 0 :=
    (getD_prefix_eq hpre (by omega)).symm
  refine ⟨by omega, ?_⟩
  rw [hlength, hbyte 4 (by omega), hbyte 5 (by omega), hbyte 6 (by omega), hbyte 7 (by omega)]
  rw [getMessageSize, someipHeaderSize, if_pos (by omega), UInt32.toNat_add] at hsize
  set field := bytesToLong (d.getD 4 0) (d.getD 5 0) (d.getD 6 0) (d.getD 7 0)
  have hlt := field.toNat_lt
  change size = (8 + field.toNat) % 2 ^ 32 at hsize
  omega

end Message

/-- The messages in front of some bytes exist and are unique. -/
lemma exists_maximal (bytes : List UInt8) : ∃ ms rest, ∀ ms' rest',
    Framing.Maximal UdpMessage bytes ms' rest' ↔ ms' = ms ∧ rest' = rest := by
  obtain ⟨ms, rest, h⟩ := Framing.exists_maximal (fun f hf => UdpMessage.ne_nil hf) bytes
  refine ⟨ms, rest, fun ms' rest' => ⟨fun h' => ?_, ?_⟩⟩
  · exact h'.unique (fun f f' s hf hf' => UdpMessage.eq_of_front hf hf') h
  · rintro ⟨rfl, rfl⟩
    exact h

/-! ## Rounds -/

/-- The bytes `x` of the buffer remain. -/
structure UdpLoop.Holds (recvBuffer x : List UInt8) (l : UdpLoop) : Prop where
  content : (recvBuffer.drop l.i).take l.remainingBytes = x
  remaining : l.remainingBytes = x.length
  bound : x.length < 2 ^ 32

/-- What a round does: a message that is in front is handed on, unless it is left out; if none is in
front, the remaining bytes are reported or dropped. -/
structure UdpRounds (recvBuffer : List UInt8) (round : UdpLoop → UdpLoop ⊕ UdpLoop)
    (leavesOut : List UInt8 → ℕ → Bool) : Prop where
  full : ∀ {l : UdpLoop} {m x : List UInt8}, UdpMessage m → l.Holds recvBuffer (m ++ x) →
    ∃ events, round l = UdpLoop.next ⟨l.i + m.length, x.length, l.events ++ events⟩ ∧
      UdpEvent.messages events = (if leavesOut m x.length then [] else [m]) ∧
      UdpEvent.errors events = []
  part : ∀ {l : UdpLoop} {x : List UInt8}, (∀ m, UdpMessage m → ¬ m <+: x) → l.Holds recvBuffer x →
    ∃ i events, round l = UdpLoop.next ⟨i, 0, l.events ++ events⟩ ∧
      UdpEvent.messages events = [] ∧
      (UdpEvent.errors events = [] ∨ UdpEvent.errors events = [x])

section Rounds

variable {recvBuffer m x : List UInt8} {l : UdpLoop}

/-- What a loop holds is next in the buffer. -/
lemma UdpLoop.Holds.prefix_front (h : l.Holds recvBuffer x) : x <+: recvBuffer.drop l.i := by
  rw [← h.content]
  exact List.take_prefix _ _

/-- The size of a message in front of the remaining bytes. -/
lemma UdpLoop.Holds.size_eq (h : l.Holds recvBuffer (m ++ x)) (hm : UdpMessage m) :
    (getMessageSize (recvBuffer.drop l.i) l.remainingBytes).toNat = m.length ∧
      m.length > someipHeaderSize ∧ m.length ≤ l.remainingBytes ∧
      (recvBuffer.drop l.i).take m.length = m ∧ l.remainingBytes - m.length = x.length := by
  have hremaining := h.remaining
  have hbound := h.bound
  rw [List.length_append] at hremaining hbound
  have hpre : m <+: recvBuffer.drop l.i := (List.prefix_append m x).trans h.prefix_front
  refine ⟨hm.getMessageSize_eq hpre (by omega) (by omega), hm.1, by omega, ?_, by omega⟩
  exact (List.prefix_iff_eq_take.mp hpre).symm

/-- If no message is in front, then none is found. -/
lemma UdpLoop.Holds.not_full (h : l.Holds recvBuffer x) (hx : ∀ m, UdpMessage m → ¬ m <+: x) :
    ¬ ((getMessageSize (recvBuffer.drop l.i) l.remainingBytes).toNat > someipHeaderSize ∧
      (getMessageSize (recvBuffer.drop l.i) l.remainingBytes).toNat ≤ l.remainingBytes) := by
  intro hfull
  have hle : l.remainingBytes ≤ (recvBuffer.drop l.i).length := by
    rw [h.remaining]
    exact h.prefix_front.length_le
  refine hx _ (udpMessage_take hle hfull) ?_
  have hpre := List.take_prefix (getMessageSize (recvBuffer.drop l.i) l.remainingBytes).toNat
    (recvBuffer.drop l.i)
  refine List.prefix_of_prefix_length_le hpre h.prefix_front ?_
  rw [List.length_take, ← h.remaining]
  omega

end Rounds

/-- The messages of two lists of events. -/
lemma UdpEvent.messages_append (a b : List UdpEvent) :
    UdpEvent.messages (a ++ b) = UdpEvent.messages a ++ UdpEvent.messages b := List.filterMap_append

/-- The errors of two lists of events. -/
lemma UdpEvent.errors_append (a b : List UdpEvent) :
    UdpEvent.errors (a ++ b) = UdpEvent.errors a ++ UdpEvent.errors b := List.filterMap_append

/-- What the server keeps of a header is neither a message nor an error. -/
lemma UdpServer.messages_header (isJoined : Bool) (front : List UInt8) :
    UdpEvent.messages (UdpServer.header isJoined front) = [] ∧
      UdpEvent.errors (UdpServer.header isJoined front) = [] := by
  rw [UdpServer.header]
  split_ifs <;> exact ⟨rfl, rfl⟩

/-- The rounds of the server. -/
lemma UdpServer.rounds (isJoined : Bool) (recvBuffer : List UInt8) :
    UdpRounds recvBuffer (UdpServer.round isJoined recvBuffer) UdpServer.leavesOut where
  full := by
    intro l m x hm h
    obtain ⟨hsize, hlarge, hfits, htake, hrest⟩ := h.size_eq hm
    have hservice : serviceOf (recvBuffer.drop l.i) = serviceOf m := by
      have hpre : m <+: recvBuffer.drop l.i := (List.prefix_append m x).trans h.prefix_front
      have hpos := hm.1
      rw [serviceOf, getD_prefix_eq hpre (by omega), getD_prefix_eq hpre (by omega)]
      rfl
    obtain ⟨hmessages, herrors⟩ := UdpServer.messages_header isJoined (recvBuffer.drop l.i)
    refine ⟨UdpServer.header isJoined (recvBuffer.drop l.i) ++
      if serviceOf m ≠ sdService ∨ m.length > someipHeaderSize ∧ m.length ≥ x.length then
        [.onMessage m] else [], ?_, ?_, ?_⟩
    · simp only [UdpServer.round, hsize, if_pos (And.intro hlarge hfits), hrest, htake, hservice]
    · rw [UdpEvent.messages_append, hmessages, List.nil_append]
      have hleft : UdpServer.leavesOut m x.length = true ↔
          ¬ (serviceOf m ≠ sdService ∨ m.length > someipHeaderSize ∧ m.length ≥ x.length) := by
        simp only [UdpServer.leavesOut, decide_eq_true_eq, not_or, not_not, not_and, not_le]
        exact and_congr_right fun _ => ⟨fun hlt _ => hlt, fun hlt => hlt hlarge⟩
      by_cases hcond : serviceOf m ≠ sdService ∨ m.length > someipHeaderSize ∧ m.length ≥ x.length
      · rw [if_pos hcond, if_neg (fun hleaves => hleft.mp hleaves hcond)]
        rfl
      · rw [if_neg hcond, if_pos (hleft.mpr hcond)]
        rfl
    · rw [UdpEvent.errors_append, herrors, List.nil_append]
      split_ifs <;> rfl
  part := by
    intro l x hx h
    refine ⟨l.i, if l.remainingBytes > 1 ∧ serviceOf recvBuffer ≠ sdService ∧
      (getMessageSize (recvBuffer.drop l.i) l.remainingBytes).toNat ≠ 0 then [.onError x] else [],
      ?_, ?_, ?_⟩
    · simp only [UdpServer.round, if_neg (h.not_full hx), h.content]
    · split_ifs <;> rfl
    · split_ifs
      · exact Or.inr rfl
      · exact Or.inl rfl

/-- The rounds of the client. -/
lemma UdpClient.rounds (recvBuffer : List UInt8) :
    UdpRounds recvBuffer (UdpClient.round recvBuffer) UdpClient.leavesOut where
  full := by
    intro l m x hm h
    obtain ⟨hsize, hlarge, hfits, htake, hrest⟩ := h.size_eq hm
    refine ⟨[.onMessage m], ?_, rfl, rfl⟩
    simp only [UdpClient.round, hsize, if_pos (And.intro hlarge hfits), hrest, htake]
  part := by
    intro l x hx h
    refine ⟨l.i + (getMessageSize (recvBuffer.drop l.i) l.remainingBytes).toNat, [], ?_, rfl,
      Or.inl rfl⟩
    simp only [UdpClient.round, if_neg (h.not_full hx), List.append_nil]

/-! ## The loop -/

section Loop

variable {recvBuffer : List UInt8} {round : UdpLoop → UdpLoop ⊕ UdpLoop}
  {leavesOut : List UInt8 → ℕ → Bool}

/-- The loop goes on while bytes remain. -/
lemma UdpLoop.next_of_pos {l : UdpLoop} (h : 0 < l.remainingBytes) : l.next = .inl l := if_pos h

/-- The loop ends when no bytes remain. -/
lemma UdpLoop.next_of_zero {l : UdpLoop} (h : l.remainingBytes = 0) : l.next = .inr l :=
  if_neg (by omega)

/-- The bytes behind a message remain when it is taken away. -/
lemma UdpLoop.Holds.skip {m x : List UInt8} {l : UdpLoop} (h : l.Holds recvBuffer (m ++ x))
    (events : List UdpEvent) : UdpLoop.Holds recvBuffer x ⟨l.i + m.length, x.length, events⟩ := by
  have hremaining := h.remaining
  have hbound := h.bound
  rw [List.length_append] at hremaining hbound
  refine ⟨?_, rfl, by omega⟩
  have hdrop := congrArg (List.drop m.length) h.content
  rwa [List.drop_left, List.drop_take, List.drop_drop, hremaining, Nat.add_sub_cancel_left] at hdrop

/-- The loop hands on the messages in front, and reports or drops the rest.

**Proof sketch.** Induction on the messages. A round takes the first one away, and the loop goes on if
bytes remain. When no message is left in front, the round for the rest is the last one. -/
lemma UdpRounds.returns (h : UdpRounds recvBuffer round leavesOut) {ms : List (List UInt8)}
    {x rest : List UInt8} {l : UdpLoop} (hx : Framing.Maximal UdpMessage x ms rest)
    (hl : l.Holds recvBuffer x) (hne : x ≠ []) :
    ∃ l', Loop.Returns (Loop.run round l) l' ∧
      UdpEvent.messages l'.events = UdpEvent.messages l.events ++ delivered leavesOut rest ms ∧
      (UdpEvent.errors l'.events = UdpEvent.errors l.events ∨
        UdpEvent.errors l'.events = UdpEvent.errors l.events ++ [rest] ∧ rest ≠ []) := by
  induction ms generalizing x l with
  | nil =>
    obtain rfl : x = rest := hx.split
    obtain ⟨i, events, hround, hmessages, herrors⟩ := h.part hx.not_frame hl
    rw [UdpLoop.next_of_zero rfl] at hround
    refine ⟨_, Loop.returns_of_inr hround, ?_, ?_⟩
    · rw [UdpEvent.messages_append, hmessages]
      rfl
    · rw [UdpEvent.errors_append]
      rcases herrors with herrors | herrors
      · left
        rw [herrors, List.append_nil]
      · right
        rw [herrors]
        exact ⟨rfl, hne⟩
  | cons m ms ih =>
    have hm := hx.frames m List.mem_cons_self
    obtain ⟨x, rfl⟩ : ∃ y, x = m ++ y :=
      ⟨ms.flatten ++ rest, by rw [hx.split, List.flatten_cons, List.append_assoc]⟩
    obtain ⟨events, hround, hmessages, herrors⟩ := h.full hm hl
    have htail := hx.tail
    have hcons : delivered leavesOut rest (m :: ms) =
        (if leavesOut m x.length then [] else [m]) ++ delivered leavesOut rest ms := by
      rw [delivered, ← htail.split]
      split_ifs <;> rfl
    by_cases hempty : x = []
    · subst hempty
      obtain ⟨rfl, rfl⟩ := htail.eq_nil fun f hf => hf.ne_nil
      rw [UdpLoop.next_of_zero rfl] at hround
      refine ⟨_, Loop.returns_of_inr hround, ?_, Or.inl ?_⟩
      · rw [UdpEvent.messages_append, hmessages, hcons, delivered, List.append_nil]
      · rw [UdpEvent.errors_append, herrors, List.append_nil]
    · have hpos : 0 < x.length := List.length_pos_iff.mpr hempty
      rw [UdpLoop.next_of_pos hpos] at hround
      obtain ⟨l', hreturns, hmessages', herrors'⟩ := ih htail (hl.skip (l.events ++ events)) hempty
      rw [UdpEvent.errors_append, herrors, List.append_nil] at herrors'
      refine ⟨l', Loop.returns_of_inl hround hreturns, ?_, herrors'⟩
      rw [hmessages', UdpEvent.messages_append, hmessages, hcons, List.append_assoc]

/-- A client leaves out no message. -/
lemma delivered_client (rest : List UInt8) (ms : List (List UInt8)) :
    delivered UdpClient.leavesOut rest ms = ms := by
  induction ms with
  | nil => rfl
  | cons m ms ih =>
    rw [delivered, ih]
    exact if_neg Bool.false_ne_true

end Loop

/-! ## Callbacks -/

namespace UdpReceiver

/-- The callback ends, and the endpoint waits again. It hands on the messages `ms` and nothing else, and
it reports `rest` or drops it. -/
def Ends (ms : List (List UInt8)) (rest : List UInt8)
    (callback : ℕ → Option (UdpReceiver × List UdpEvent)) : Prop :=
  ∃ r' events, (∀ result, Loop.Returns callback result ↔ result = (r', events)) ∧
    r'.receiving = true ∧ UdpEvent.messages events = ms ∧
      (UdpEvent.errors events = [] ∨ UdpEvent.errors events = [rest] ∧ rest ≠ [])

variable (r : UdpReceiver)

/-- The loop begins with all received bytes. -/
lemma holds_store (datagram : List UInt8) :
    UdpLoop.Holds (r.store (r.received datagram)) (r.received datagram)
      ⟨0, (r.received datagram).length, []⟩ := by
  refine ⟨?_, rfl, ?_⟩
  · rw [List.drop_zero, store, List.take_left]
  · rw [received, List.length_take]
    have := r.maxMessageSize.toNat_lt
    omega

/-- Received bytes are processed and the next datagram is waited for. -/
lemma ends_process {round : List UInt8 → UdpLoop → UdpLoop ⊕ UdpLoop}
    {leavesOut : List UInt8 → ℕ → Bool}
    (hround : ∀ recvBuffer, UdpRounds recvBuffer (round recvBuffer) leavesOut)
    {datagram rest : List UInt8} {ms : List (List UInt8)}
    (h : Framing.Maximal UdpMessage (r.received datagram) ms rest)
    (hne : r.received datagram ≠ []) :
    Ends (delivered leavesOut rest ms) rest (r.process round (r.received datagram)) := by
  obtain ⟨l, hreturns, hmessages, herrors⟩ := (hround _).returns h (r.holds_store datagram) hne
  refine ⟨{ r with recvBuffer := r.store (r.received datagram) }.receive, l.events, ?_, rfl, ?_, ?_⟩
  · intro result
    refine (Loop.returns_map_iff (f := Loop.run _ _)).trans ?_
    constructor
    · rintro ⟨l', hreturns', rfl⟩
      rw [(Loop.stable_run _).unique hreturns' hreturns]
    · rintro rfl
      exact ⟨l, hreturns, rfl⟩
  · exact hmessages
  · exact herrors

/-- Without bytes the endpoint waits at once. -/
lemma ends_receive : Ends [] [] fun _ => some (r.receive, []) :=
  ⟨r.receive, [], fun _ => Loop.returns_some_iff, rfl, rfl, Or.inl rfl⟩

/-- **For every datagram, the loops of both UDP endpoints end, and the endpoints wait for the next one.
What they received of it consists of messages in front and a rest in exactly one way; the client hands
on these messages, and the server those that it does not leave out.** -/
theorem splits_datagram (isJoined : Bool) (datagram : List UInt8) :
    ∃ ms rest, (∀ ms' rest', Framing.Maximal UdpMessage (r.received datagram) ms' rest' ↔
        ms' = ms ∧ rest' = rest) ∧
      Ends (delivered UdpServer.leavesOut rest ms) rest
        (UdpServer.receiveCbk r .success datagram isJoined) ∧
      Ends ms rest (UdpClient.receiveCbk r .success datagram) := by
  obtain ⟨ms, rest, hunique⟩ := exists_maximal (r.received datagram)
  have h := (hunique ms rest).mpr ⟨rfl, rfl⟩
  refine ⟨ms, rest, hunique, ?_⟩
  by_cases hne : r.received datagram = []
  · have hnil := hunique [] []
    rw [hne] at hnil
    obtain ⟨rfl, rfl⟩ := hnil.mp (Framing.maximal_nil fun f hf => UdpMessage.ne_nil hf)
    have hserver : UdpServer.receiveCbk r .success datagram isJoined =
        fun _ => some (r.receive, []) := by
      funext fuel
      exact if_neg fun h => h.2 hne
    have hclient : UdpClient.receiveCbk r .success datagram = fun _ => some (r.receive, []) := by
      funext fuel
      rw [UdpClient.receiveCbk, if_neg (by decide), if_neg fun h => h.2 hne]
    rw [hserver, hclient]
    exact ⟨r.ends_receive, r.ends_receive⟩
  · constructor
    · have hcbk : UdpServer.receiveCbk r .success datagram isJoined =
          r.process (UdpServer.round isJoined) (r.received datagram) := by
        funext fuel
        exact if_pos ⟨rfl, hne⟩
      rw [hcbk]
      exact r.ends_process (UdpServer.rounds isJoined) h hne
    · have hcbk : UdpClient.receiveCbk r .success datagram =
          r.process UdpClient.round (r.received datagram) := by
        funext fuel
        rw [UdpClient.receiveCbk, if_neg (by decide), if_pos ⟨rfl, hne⟩]
      rw [hcbk]
      have hends := r.ends_process UdpClient.rounds h hne
      rwa [delivered_client] at hends

end UdpReceiver

end Vsomeip
