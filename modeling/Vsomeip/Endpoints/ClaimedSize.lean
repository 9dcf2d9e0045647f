import Vsomeip.Endpoints.TcpResync
import Vsomeip.Routing.CrcVerdict

set_option relaxedAutoImplicit false
set_option autoImplicit false

/-!
# The size that a message claims

`utility::get_message_size` returns a 64-bit number, so that the receive loops can refuse a message
whose size does not fit into 32 bits. But the sum of the header size and the length field is one of
32-bit numbers, which is widened afterwards: it wraps around for the eight largest lengths, and the
comparison with `MESSAGE_SIZE_UNLIMITED` never fires. `utility::get_payload_size` subtracts the header
size from the length field, whatever that is.

## Main definitions

* `Vsomeip.claimedSize` — the header size and the length field.
* `Vsomeip.readMessageSize`, `Vsomeip.getPayloadSize` — the functions of `utility`.
* `Vsomeip.TooLarge` — what the receive loops compare.
* `Vsomeip.TcpRole.GivesUp` — a round hands no message on and keeps none waiting.

## Main results

* `Vsomeip.readMessageSize_eq_iff`, `Vsomeip.tooLarge_iff`, `Vsomeip.TcpRole.givesUp_iff`,
  `Vsomeip.getPayloadSize_le_iff` — when the sizes and the receive loops are right.
* `Vsomeip.HeadedData.payloadSize_le_iff` — when the payload of a notification is inside of it.
* `Vsomeip.messageSize_iff` — all of them.
-/

namespace Vsomeip

/-! ## The sizes -/

section Sizes

variable (data : List UInt8)

/-- The length field of the header. -/
def lengthField : UInt32 :=
  bytesToLong (data.getD 4 0) (data.getD 5 0) (data.getD 6 0) (data.getD 7 0)

/-- The size that a message claims to have. -/
def claimedSize : ℕ := someipHeaderSize + (lengthField data).toNat

/-- `utility::get_message_size` with its result type: the 32-bit sum is widened. -/
def readMessageSize (size : ℕ) : UInt64 := (getMessageSize data size).toUInt64

/-- `utility::get_payload_size`. -/
def getPayloadSize (size : UInt32) : UInt32 :=
  if someipHeaderSize ≤ size.toNat then lengthField data - 8 else 0

/-- The comparisons of the receive loops with `MESSAGE_SIZE_UNLIMITED` and, for the size cast to 32
bits, with `max_message_size_`. -/
def TooLarge (cfg : RecvConfig) (read : UInt64) : Prop :=
  read > messageSizeUnlimited.toUInt64 ∨ TcpLoop.exceeds cfg read.toUInt32 = true

/-- The function as the payload of a notification is cut out with it. -/
lemma HeadedData.payloadSize_eq (m : HeadedData) :
    m.payloadSize = getPayloadSize m.data (UInt32.ofNat m.data.length) := by
  have hsize : (UInt32.ofNat m.data.length).toNat = m.data.length := by
    rw [UInt32.toNat_ofNat', Nat.mod_eq_of_lt m.sized]
  have hheaded := m.headed
  rw [getPayloadSize, hsize, if_pos (by rw [someipHeaderSize]; omega)]
  rfl

variable {data} {size : ℕ}

/-- The size that a header claims. -/
lemma getMessageSize_of_le (h : someipHeaderSize ≤ size) :
    getMessageSize data size = 8 + lengthField data := if_pos h

/-- The sum wraps around once at most. -/
lemma toNat_getMessageSize (h : someipHeaderSize ≤ size) :
    (getMessageSize data size).toNat =
      if claimedSize data < 2 ^ 32 then claimedSize data else claimedSize data - 2 ^ 32 := by
  have hlt := (lengthField data).toNat_lt
  rw [getMessageSize_of_le h, UInt32.toNat_add, claimedSize, someipHeaderSize]
  change (8 + (lengthField data).toNat) % 2 ^ 32 = _
  split_ifs <;> omega

/-- A size that wraps around is less than that of a header. -/
lemma claimedSize_lt (data : List UInt8) : claimedSize data < 2 ^ 32 + 8 := by
  have hlt := (lengthField data).toNat_lt
  rw [claimedSize, someipHeaderSize]
  omega

/-- The size that is read is the one that the header claims. -/
lemma toNat_readMessageSize (data : List UInt8) (size : ℕ) :
    (readMessageSize data size).toNat = (getMessageSize data size).toNat :=
  UInt32.toNat_toUInt64 _

/-- The size is right exactly if the sum does not wrap around. -/
lemma readMessageSize_eq_iff (h : someipHeaderSize ≤ size) :
    (readMessageSize data size).toNat = claimedSize data ↔ (lengthField data).toNat < 2 ^ 32 - 8 := by
  rw [toNat_readMessageSize, toNat_getMessageSize h, claimedSize, someipHeaderSize]
  split_ifs <;> omega

/-- The comparison with `MESSAGE_SIZE_UNLIMITED` never fires. -/
lemma not_gt_unlimited (data : List UInt8) (size : ℕ) :
    ¬ readMessageSize data size > messageSizeUnlimited.toUInt64 := by
  have hlt := (getMessageSize data size).toNat_lt
  rw [gt_iff_lt, UInt64.lt_iff_toNat_lt, toNat_readMessageSize]
  change ¬ 2 ^ 32 - 1 < _
  omega

/-- A size exceeds the maximum if it is larger. -/
lemma exceeds_iff (cfg : RecvConfig) (n : UInt32) :
    TcpLoop.exceeds cfg n = true ↔ cfg.maxMessageSize.toNat < n.toNat := by
  constructor
  · intro h
    rw [TcpLoop.exceeds, Bool.and_eq_true] at h
    exact UInt32.lt_iff_toNat_lt.mp (of_decide_eq_true h.2)
  · intro h
    by_contra hnot
    have hle := h.trans_le (Nat.le_of_lt_succ n.toNat_lt)
    have hne : cfg.maxMessageSize ≠ messageSizeUnlimited := by
      rintro heq
      rw [heq] at hle
      exact absurd hle (by decide)
    exact hnot (by simp [TcpLoop.exceeds, hne, UInt32.lt_iff_toNat_lt, h])

/-- The comparisons fire for a message that claims more than the limit, exactly if the sum does not
wrap around or what is left exceeds the limit, too. -/
lemma tooLarge_iff {cfg : RecvConfig} (h : someipHeaderSize ≤ size)
    (hlimit : cfg.maxMessageSize.toNat < claimedSize data) :
    TooLarge cfg (readMessageSize data size) ↔
      claimedSize data < 2 ^ 32 ∨ cfg.maxMessageSize.toNat < claimedSize data - 2 ^ 32 := by
  rw [TooLarge, readMessageSize, UInt32.toUInt32_toUInt64, exceeds_iff, toNat_getMessageSize h]
  refine (or_iff_right (not_gt_unlimited data size)).trans ?_
  split_ifs <;> omega

/-- The payload is not larger than what the buffer has of it, exactly if there is no header, or the
length field says at least 8 and no more than what is there. -/
lemma getPayloadSize_le_iff (data : List UInt8) (size : UInt32) :
    (getPayloadSize data size).toNat ≤ size.toNat - 16 ↔
      size.toNat < 8 ∨ (lengthField data).toNat = 8 ∨
        8 ≤ (lengthField data).toNat ∧ (lengthField data).toNat + 8 ≤ size.toNat := by
  have hlt := (lengthField data).toNat_lt
  have hsize := size.toNat_lt
  rw [getPayloadSize, someipHeaderSize]
  split_ifs with h
  · rw [UInt32.toNat_sub]
    change (2 ^ 32 - 8 + (lengthField data).toNat) % 2 ^ 32 ≤ _ ↔ _
    omega
  · exact iff_of_true (Nat.zero_le _) (Or.inl (by omega))

/-- **The payload of a notification** that is cut out with the function is inside of the message exactly
if the length field says at least 8 and no more than what is there. -/
theorem HeadedData.payloadSize_le_iff (m : HeadedData) :
    m.payloadSize.toNat ≤ m.payload.length ↔
      8 ≤ (lengthField m.data).toNat ∧ (lengthField m.data).toNat + 8 ≤ m.data.length := by
  have hheaded := m.headed
  have hsize : (UInt32.ofNat m.data.length).toNat = m.data.length := UInt32.toNat_ofNat_of_lt' m.sized
  have hpayload : m.payload.length = (UInt32.ofNat m.data.length).toNat - 16 := by
    rw [ReceivedData.payload, List.length_drop, hsize]
  rw [hpayload, m.payloadSize_eq, getPayloadSize_le_iff, hsize]
  omega

end Sizes

/-! ## The rounds of the loops -/

/-- The message in front is complete and is handed on: it is no cookie, and with magic cookies enabled
no cookie begins in it. -/
def TcpLoop.Forwards (l : TcpLoop) (cookie : List UInt8) : Prop :=
  l.Complete ∧ l.isMagicCookie cookie = false ∧
    (l.magicCookiesEnabled = true → l.messageSize ≤ findMagicCookie cookie l.front l.recv.size)

/-- A round hands no message on, and it takes bytes away or ends the loop with a return. -/
def TcpRole.GivesUp (cfg : RecvConfig) (role : TcpRole) (l : TcpLoop) : Prop :=
  TcpEvent.messages (role.round cfg l).1.events = TcpEvent.messages l.events ∧
    ((role.round cfg l).1.recv.size < l.recv.size ∨ (role.round cfg l).2 = .stop)

section Rounds

variable {cfg : RecvConfig} {l : TcpLoop}

/-- The branch for a complete message hands it on, or nothing. -/
lemma messages_fullMessage (cfg : RecvConfig) (cookie : List UInt8) {requests lost : List TcpEvent}
    (hrequests : TcpEvent.messages requests = []) (hlost : TcpEvent.messages lost = [])
    (hcomplete : l.Complete) :
    TcpEvent.messages (l.fullMessage cfg cookie requests lost l.messageSize).events =
      TcpEvent.messages l.events ↔ ¬ l.Forwards cookie := by
  obtain ⟨recv, enabled, k, events, heq, -, -, hcases⟩ :=
    fullMessage_cases cfg l cookie requests lost l.messageSize
  rw [heq, messages_append]
  rcases hcases with ⟨hcookie, -, -, rfl⟩ | ⟨hcookie, -, ⟨hcut, -, rfl⟩ | ⟨hcut, -, rfl⟩⟩
  · refine iff_of_true ?_ fun h => absurd (hcookie.symm.trans h.2.1) (by decide)
    rw [hrequests, List.append_nil]
  · refine iff_of_true ?_ fun h => absurd (h.2.2 hcut.1) (Nat.not_le_of_lt hcut.2)
    rw [hlost, List.append_nil]
  · refine iff_of_false (fun h => ?_) (not_not_intro ⟨hcomplete, hcookie, fun henabled =>
      Nat.le_of_not_lt fun hlt => hcut ⟨henabled, hlt⟩⟩)
    rw [messages_append, hrequests, List.nil_append] at h
    exact absurd (List.append_right_eq_self.mp h) (List.cons_ne_nil _ _)

/-- The comparison with the limit misses a message only if the sum wraps around. -/
lemma messageSize_lt_of_not_exceeds (hheader : someipHeaderSize ≤ l.recv.size)
    (hlimit : cfg.maxMessageSize.toNat < claimedSize l.front)
    (hexceeds : ¬ TcpLoop.exceeds cfg (getMessageSize l.front l.recv.size) = true) :
    (getMessageSize l.front l.recv.size).toNat < someipHeaderSize := by
  have hlt := claimedSize_lt l.front
  rw [exceeds_iff, toNat_getMessageSize hheader] at hexceeds
  rw [toNat_getMessageSize hheader, someipHeaderSize]
  split_ifs at hexceeds ⊢ <;> omega

/-- Without a complete message, the server resynchronises, drops what it has or closes the
connection. -/
lemma TcpServer.givesUp_of_not_complete (hheader : someipHeaderSize ≤ l.recv.size)
    (hlimit : cfg.maxMessageSize.toNat < claimedSize l.front) (hcomplete : ¬ l.Complete) :
    (TcpServer.round cfg l).1.recv.size < l.recv.size ∨ (TcpServer.round cfg l).2 = .stop := by
  have hpos : 0 < l.recv.size := Nat.lt_of_lt_of_le (by decide) hheader
  rw [TcpLoop.Complete, TcpLoop.messageSize] at hcomplete
  rw [TcpServer.round, if_neg hcomplete]
  cases hresync : TcpServer.resync l with
  | some l' => exact Or.inl (TcpServer.resync_spec hcomplete hresync).2.2
  | none =>
    dsimp only
    by_cases hexceeds : TcpLoop.exceeds cfg (getMessageSize l.front l.recv.size) = true
    · rw [if_pos hexceeds]
      exact Or.inl hpos
    · have hlt := messageSize_lt_of_not_exceeds hheader hlimit hexceeds
      rw [if_neg hexceeds, if_neg (by omega), if_neg (by omega)]
      exact Or.inr rfl

/-- Without a complete message, the client drops what it has, goes on at a cookie or restarts, unless
it is lost and waits. -/
lemma TcpClient.givesUp_iff_not_lost (hheader : someipHeaderSize ≤ l.recv.size)
    (hlimit : cfg.maxMessageSize.toNat < claimedSize l.front) (hcomplete : ¬ l.Complete) :
    ((TcpClient.round cfg l).1.recv.size < l.recv.size ∨ (TcpClient.round cfg l).2 = .stop) ↔
      ¬ TcpClient.Lost cfg l := by
  have hpos : 0 < l.recv.size := Nat.lt_of_lt_of_le (by decide) hheader
  rw [TcpLoop.Complete, TcpLoop.messageSize] at hcomplete
  rw [TcpClient.round, if_neg hcomplete]
  by_cases hexceeds : TcpLoop.exceeds cfg (getMessageSize l.front l.recv.size) = true
  · rw [if_pos hexceeds]
    exact iff_of_true (Or.inl hpos) fun h => absurd (hexceeds.symm.trans h.2.2.1) (by decide)
  have hlt := messageSize_lt_of_not_exceeds hheader hlimit hexceeds
  rw [if_neg hexceeds, if_neg (by omega), if_neg (by omega)]
  by_cases henabled : l.magicCookiesEnabled = true
  · rw [if_pos ⟨henabled, hpos⟩]
    dsimp only
    by_cases hfound : findMagicCookie serviceCookie l.front l.recv.size < l.recv.size
    · have hoffset : 0 < findMagicCookie serviceCookie l.front l.recv.size :=
        findMagicCookie_pos (Or.inr rfl) hcomplete
      rw [if_pos hfound]
      refine iff_of_true (Or.inl ?_) fun h => Nat.not_le_of_lt hfound h.2.2.2.2
      change l.recv.size - findMagicCookie serviceCookie l.front l.recv.size < l.recv.size
      omega
    · rw [if_neg hfound]
      refine iff_of_false ?_ (not_not_intro ⟨hheader, hlt.le, by simpa using hexceeds, henabled,
        Nat.le_of_not_lt hfound⟩)
      rintro (h | h)
      · exact absurd h (Nat.lt_irrefl _)
      · exact TcpRound.noConfusion h
  · rw [if_neg (fun h => henabled h.1)]
    exact iff_of_true (Or.inr rfl) fun h => henabled h.2.2.2.1

/-- A message that claims more than the limit is given up, unless it is complete and handed on, or the
client is lost at it. -/
lemma TcpRole.givesUp_iff (role : TcpRole) (hheader : someipHeaderSize ≤ l.recv.size)
    (hlimit : cfg.maxMessageSize.toNat < claimedSize l.front) :
    role.GivesUp cfg l ↔
      ¬ l.Forwards role.peerCookie ∧ (role = .client → ¬ TcpClient.Lost cfg l) := by
  by_cases hcomplete : l.Complete
  · obtain ⟨requests, lost, hrequests, hlost, hround⟩ := role.round_of_complete cfg hcomplete
    have hsize : (l.fullMessage cfg role.peerCookie requests lost l.messageSize).recv.size <
        l.recv.size :=
      (fullMessage_spec role.peerCookie requests lost (Nat.zero_lt_of_lt hcomplete.1) hcomplete.2).2.2
    have hlast : ¬ TcpClient.Lost cfg l := fun h => Nat.not_lt_of_le h.2.1 hcomplete.1
    rw [TcpRole.GivesUp, hround, messages_fullMessage cfg role.peerCookie hrequests hlost hcomplete]
    exact (and_iff_left (Or.inl hsize)).trans (and_iff_left fun _ => hlast).symm
  · have hmessages := (role.round_of_not_complete cfg hcomplete).2
    refine (and_iff_right hmessages).trans (Iff.trans ?_ (and_iff_right fun h => hcomplete h.1).symm)
    cases role with
    | server =>
      exact iff_of_true (TcpServer.givesUp_of_not_complete hheader hlimit hcomplete)
        fun h => TcpRole.noConfusion h
    | client =>
      refine (TcpClient.givesUp_iff_not_lost hheader hlimit hcomplete).trans ?_
      exact ⟨fun h _ => h, fun h => h rfl⟩

end Rounds

/-- **The sizes of messages.** The size that is read is the one that the message claims, exactly if
the length field is below the last eight 32-bit numbers. The comparisons fire for a message that claims
more than the limit, exactly if the sum does not wrap around or what is left exceeds the limit. A round
of a TCP endpoint gives such a message up, exactly if it is not already complete and handed on, and the
client is not lost at it. The size of the payload is at most what the buffer has of it, exactly if there
is no header, or the length field is 8 or says what fits. -/
theorem messageSize_iff (data : List UInt8) (size : ℕ) (size' : UInt32) (cfg : RecvConfig)
    (role : TcpRole) (l : TcpLoop) :
    ((someipHeaderSize ≤ size → (readMessageSize data size).toNat = claimedSize data) ↔
        (someipHeaderSize ≤ size → (lengthField data).toNat < 2 ^ 32 - 8)) ∧
      ((someipHeaderSize ≤ size → cfg.maxMessageSize.toNat < claimedSize data →
            TooLarge cfg (readMessageSize data size)) ↔
        (someipHeaderSize ≤ size → cfg.maxMessageSize.toNat < claimedSize data →
          (lengthField data).toNat < 2 ^ 32 - 8 ∨
            cfg.maxMessageSize.toNat < (lengthField data).toNat - (2 ^ 32 - 8))) ∧
      ((someipHeaderSize ≤ l.recv.size → cfg.maxMessageSize.toNat < claimedSize l.front →
            role.GivesUp cfg l) ↔
        (someipHeaderSize ≤ l.recv.size → cfg.maxMessageSize.toNat < claimedSize l.front →
          ¬ l.Forwards role.peerCookie ∧ (role = .client → ¬ TcpClient.Lost cfg l))) ∧
      ((getPayloadSize data size').toNat ≤ size'.toNat - 16 ↔
        size'.toNat < 8 ∨ (lengthField data).toNat = 8 ∨
          8 ≤ (lengthField data).toNat ∧ (lengthField data).toNat + 8 ≤ size'.toNat) := by
  refine ⟨?_, ?_, ?_, getPayloadSize_le_iff data size'⟩
  · exact forall_congr' readMessageSize_eq_iff
  · refine forall_congr' fun hheader => forall_congr' fun hlimit => ?_
    rw [tooLarge_iff hheader hlimit, claimedSize, someipHeaderSize]
    omega
  · exact forall_congr' fun hheader => forall_congr' fun hlimit => role.givesUp_iff hheader hlimit

/-- A header with the largest length field is read as one of a message with 7 bytes, which no comparison
refuses; one with length field 0 gives a payload of nearly 2^32 bytes; and a message of 24 bytes that is
received at once is handed on, with a limit of 20. -/
theorem not_messageSize :
    (readMessageSize [0, 0, 0, 0, 0xFF, 0xFF, 0xFF, 0xFF] 8).toNat = 7 ∧
      claimedSize [0, 0, 0, 0, 0xFF, 0xFF, 0xFF, 0xFF] = 2 ^ 32 + 7 ∧
      ¬ TooLarge TcpServer.unlimited (readMessageSize [0, 0, 0, 0, 0xFF, 0xFF, 0xFF, 0xFF] 8) ∧
      (getPayloadSize [0, 0, 0, 0, 0, 0, 0, 0] 16).toNat = 2 ^ 32 - 8 ∧
      ¬ TcpRole.server.GivesUp { TcpServer.unlimited with maxMessageSize := 20 }
        { recv := (RecvBuffer.init TcpServer.unlimited).store
            [0x12, 0x34, 0, 1, 0, 0, 0, 16, 0, 1, 0, 1, 1, 1, 0, 0, 1, 2, 3, 4, 5, 6, 7, 8],
          magicCookiesEnabled := false, iterationGap := 0, events := [] } := by
  refine ⟨by decide, by decide, ?_, by decide, fun h => absurd h.1 (by decide)⟩
  rintro (h | h)
  · exact absurd h (by decide)
  · exact absurd h (by decide)

end Vsomeip
