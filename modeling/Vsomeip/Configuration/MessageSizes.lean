import Vsomeip.Endpoints.SendQueue
import Vsomeip.Routing.CommandCodec
import Vsomeip.Routing.OfferService

set_option relaxedAutoImplicit false
set_option autoImplicit false

/-!
# Limits of message sizes

The configuration limits the size of messages, for the local communication and for TCP, there for all
endpoints or for single ones. A message of the network is handed on to the applications in a command,
which has a header and a trailer, so `get_max_message_size_local` adds these to the largest of the
sizes. A message that an endpoint of the network accepts should fit into a local command.

The sum has two of the three flags that `send_local` appends, so the largest messages do not fit into
the command NOTIFY_ONE. The limit for all TCP endpoints has an effect on the local one only in an
element that has limits for single endpoints, and an unlimited one has none at all.

## Main definitions

* `Vsomeip.MessageSizes` — the limits of `configuration_impl`.
* `Vsomeip.MessageSizes.loadPayloadSizes` — what an element of the configuration changes.
* `Vsomeip.MessageSizes.getMaxMessageSizeLocal`, `Vsomeip.MessageSizes.getMaxMessageSizeReliable` — the
  limits of the endpoints.
* `Vsomeip.MessageSizes.LargeEnough` — the local limit is large enough.

## Main results

* `Vsomeip.MessageSizes.largeEnoughFor_iff` — when it is for one of the commands.
* `Vsomeip.MessageSizes.largeEnough_iff` — when it is for all of them.
* `Vsomeip.MessageSizes.LargeEnoughFor.not_tooBig` — nothing is dropped then by a local endpoint.
* `Vsomeip.MessageSizes.largeEnoughFor_loadPayloadSizes` — what loading an element achieves.
-/

namespace Vsomeip

/-! ## Loading -/

/-- `VSOMEIP_MAX_LOCAL_MESSAGE_SIZE`. -/
def vsomeipMaxLocalMessageSize : UInt32 := 0

/-- `VSOMEIP_MAX_TCP_MESSAGE_SIZE`. -/
def vsomeipMaxTcpMessageSize : UInt32 := 0

/-- `VSOMEIP_MAX_UDP_MESSAGE_SIZE`. -/
def vsomeipMaxUdpMessageSize : UInt32 := 1416

/-- A port in the array `payload-sizes`, with the numbers that `stoul` reads, if it does. -/
structure PortSize where
  port : Option UInt64
  maxPayloadSize : Option UInt64

/-- The payload sizes in an element of the configuration: those of the array `payload-sizes` are listed
with their addresses. -/
structure PayloadSizes where
  maxPayloadSizeLocal : Option UInt64
  maxPayloadSizeReliable : Option UInt64
  payloadSizes : Option (List (String × List PortSize))

/-- The limits of `configuration_impl`. No limit of a single endpoint is above the configured one. -/
structure MessageSizes where
  maxConfiguredMessageSize : UInt32
  maxLocalMessageSize : UInt32
  maxReliableMessageSize : UInt32
  messageSizes : String → UInt16 → Option UInt32
  bounded : ∀ {address port size}, messageSizes address port = some size →
    size ≤ maxConfiguredMessageSize

/-- The size of a message, with the header of 16 bytes, for the size of its payload. -/
def messageSize (payloadSize : UInt64) : UInt32 := (payloadSize + 16).toUInt32

namespace MessageSizes

/-- The limits before a configuration is loaded. -/
def init : MessageSizes where
  maxConfiguredMessageSize := 0
  maxLocalMessageSize := 0
  maxReliableMessageSize := 0
  messageSizes _ _ := none
  bounded := nofun

/-- Enter the limit of an endpoint. -/
def setMessageSize (s : MessageSizes) (address : String) (port : UInt16) (size : UInt32) :
    MessageSizes where
  maxConfiguredMessageSize :=
    if s.maxConfiguredMessageSize < size then size else s.maxConfiguredMessageSize
  maxLocalMessageSize := s.maxLocalMessageSize
  maxReliableMessageSize := s.maxReliableMessageSize
  messageSizes address' port' :=
    if address' = address ∧ port' = port then some size else s.messageSizes address' port'
  bounded := by
    intro address' port' size' h
    by_cases hkey : address' = address ∧ port' = port
    · rw [if_pos hkey] at h
      obtain rfl := Option.some.inj h
      split_ifs with hlt
      · exact UInt32.le_refl _
      · exact UInt32.not_lt.mp hlt
    · rw [if_neg hkey] at h
      split_ifs with hlt
      · exact UInt32.le_trans (s.bounded h) (UInt32.le_of_lt hlt)
      · exact s.bounded h

/-- A port of the array `payload-sizes`. -/
def loadPort (address : String) (s : MessageSizes) (p : PortSize) : MessageSizes :=
  match p.port, p.maxPayloadSize with
  | some port, some payloadSize =>
    if port.toUInt16 = illegalPort ∨ messageSize payloadSize = 0 then s
    else s.setMessageSize address port.toUInt16 (messageSize payloadSize)
  | _, _ => s

/-- A local limit that is smaller than the limits of other endpoints is increased. -/
def raiseLocal (s : MessageSizes) : MessageSizes :=
  let s := if s.maxLocalMessageSize ≠ 0 ∧ s.maxConfiguredMessageSize ≠ 0 ∧
      s.maxConfiguredMessageSize > s.maxLocalMessageSize then
    { s with maxLocalMessageSize := s.maxConfiguredMessageSize } else s
  if s.maxLocalMessageSize ≠ 0 ∧ s.maxReliableMessageSize ≠ 0 ∧
      s.maxReliableMessageSize > s.maxLocalMessageSize then
    { s with maxLocalMessageSize := s.maxReliableMessageSize } else s

/-- The limits for the local communication and for all TCP endpoints. -/
def loadLimits (s : MessageSizes) (e : PayloadSizes) : MessageSizes :=
  { s with
    maxLocalMessageSize := (e.maxPayloadSizeLocal.map messageSize).getD s.maxLocalMessageSize
    maxReliableMessageSize := (e.maxPayloadSizeReliable.map messageSize).getD s.maxReliableMessageSize }

/-- `load_payload_sizes`. -/
def loadPayloadSizes (s : MessageSizes) (e : PayloadSizes) : MessageSizes :=
  match e.payloadSizes with
  | none => s.loadLimits e
  | some sizes =>
    (sizes.foldl (fun s entry => entry.2.foldl (loadPort entry.1) s) (s.loadLimits e)).raiseLocal

/-! ## The limits of the endpoints -/

/-- `its_max_message_size`. -/
def itsMaxMessageSize (s : MessageSizes) : UInt32 :=
  let size := s.maxLocalMessageSize
  let size := if vsomeipMaxTcpMessageSize ≥ size then vsomeipMaxTcpMessageSize else size
  let size := if vsomeipMaxUdpMessageSize > size then vsomeipMaxUdpMessageSize else size
  if size < s.maxConfiguredMessageSize then s.maxConfiguredMessageSize else size

/-- `get_max_message_size_local`. The header of a command has 7 bytes. -/
def getMaxMessageSizeLocal (s : MessageSizes) : UInt32 :=
  if s.maxLocalMessageSize = 0 ∧ (vsomeipMaxLocalMessageSize = 0 ∨ vsomeipMaxTcpMessageSize = 0) then
    messageSizeUnlimited
  else s.itsMaxMessageSize + 7 + 2 + 1 + 1 + 2

/-- `get_max_message_size_reliable`. -/
def getMaxMessageSizeReliable (s : MessageSizes) (address : String) (port : UInt16) : UInt32 :=
  match s.messageSizes address port with
  | some size => size
  | none =>
    if s.maxReliableMessageSize = 0 then
      if vsomeipMaxTcpMessageSize = 0 then messageSizeUnlimited else vsomeipMaxTcpMessageSize
    else s.maxReliableMessageSize

/-- What an endpoint with a limit does not drop, see `SendConfig.TooBig`. -/
def Accepts (limit : UInt32) (size : ℕ) : Prop :=
  limit = messageSizeUnlimited ∨ size ≤ limit.toNat

/-- An endpoint for UDP or TCP accepts messages of this size. -/
def AcceptedRemotely (s : MessageSizes) (size : ℕ) : Prop :=
  Accepts vsomeipMaxUdpMessageSize size ∨
    ∃ address port, Accepts (s.getMaxMessageSizeReliable address port) size

/-- A message that is accepted remotely fits into a local command. The size of the command is the
exact one, and not that of 32 bits. -/
def LargeEnoughFor (s : MessageSizes) (c : DataCommand) : Prop :=
  ∀ d : LocalData, s.AcceptedRemotely d.message.length →
    Accepts s.getMaxMessageSizeLocal (7 + d.completeSize c)

/-- The local limit is large enough for every command with a message. -/
def LargeEnough (s : MessageSizes) : Prop :=
  ∀ c, s.LargeEnoughFor c

/-- The largest of the limits to which `get_max_message_size_local` adds the header and the trailer. -/
def largest (s : MessageSizes) : ℕ :=
  max (max s.maxLocalMessageSize.toNat vsomeipMaxUdpMessageSize.toNat)
    s.maxConfiguredMessageSize.toNat

variable {s : MessageSizes} {c : DataCommand}

/-! ## What fits -/

/-- What a command adds to a message: the header, the instance, three flags, and the target client. -/
def overhead (c : DataCommand) : ℕ := if c = .notifyOne then 14 else 12

/-- The size of a command with a message: the message and what its kind adds. -/
lemma completeSize_eq (d : LocalData) (c : DataCommand) :
    7 + d.completeSize c = d.message.length + overhead c := by
  unfold LocalData.completeSize overhead
  split_ifs <;> omega

/-- There is a message of every size from that of the header on. -/
lemma exists_localData {n : ℕ} (hheader : 16 ≤ n) (hsize : n < 2 ^ 32) :
    ∃ d : LocalData, d.message.length = n :=
  ⟨⟨0, 0, List.replicate n 0, 0, false, false, false, by rwa [List.length_replicate],
    by rwa [List.length_replicate]⟩, List.length_replicate⟩

/-- What a limit accepts is what it does not drop. -/
lemma accepts_iff_not_tooBig {cfg : SendConfig} {data : List UInt8} :
    Accepts cfg.maxMessageSize data.length ↔ ¬ cfg.TooBig data := by
  unfold Accepts SendConfig.TooBig
  rw [not_and_or, not_not, Nat.not_lt]

/-- The larger of two sizes, as the code computes it. -/
lemma toNat_ite_max (a b : UInt32) : (if a > b then a else b).toNat = max b.toNat a.toNat := by
  split_ifs with h
  · exact (Nat.max_eq_right (Nat.le_of_lt (UInt32.lt_iff_toNat_lt.mp h))).symm
  · exact (Nat.max_eq_left (UInt32.le_iff_toNat_le.mp (UInt32.not_lt.mp h))).symm

/-- The largest size has 32 bits. -/
lemma largest_lt (s : MessageSizes) : s.largest < 2 ^ 32 :=
  Nat.max_lt.mpr ⟨Nat.max_lt.mpr ⟨UInt32.toNat_lt _, UInt32.toNat_lt _⟩, UInt32.toNat_lt _⟩

/-- The largest size is at least that of a UDP message. -/
lemma udp_le_largest (s : MessageSizes) : 1416 ≤ s.largest :=
  (Nat.le_max_right _ _).trans (Nat.le_max_left _ _)

/-- The size of the configuration, if local messages are limited. -/
lemma toNat_itsMaxMessageSize (h : s.maxLocalMessageSize ≠ 0) :
    s.itsMaxMessageSize.toNat = s.largest := by
  have htcp : ¬ vsomeipMaxTcpMessageSize ≥ s.maxLocalMessageSize :=
    fun hle => h (UInt32.le_antisymm hle (UInt32.zero_le))
  simp only [itsMaxMessageSize, if_neg htcp]
  rw [toNat_ite_max s.maxConfiguredMessageSize, toNat_ite_max, largest]

/-- The limit of the local endpoints, if one is configured. -/
lemma toNat_getMaxMessageSizeLocal (h : s.maxLocalMessageSize ≠ 0) :
    s.getMaxMessageSizeLocal.toNat = (s.largest + 13) % 2 ^ 32 := by
  unfold getMaxMessageSizeLocal
  rw [if_neg fun h' => h h'.1, ← toNat_itsMaxMessageSize h]
  simp only [UInt32.toNat_add, UInt32.reduceToNat]
  omega

/-- Local messages are not limited if the configuration says nothing of them. -/
lemma getMaxMessageSizeLocal_of_zero (h : s.maxLocalMessageSize = 0) :
    s.getMaxMessageSizeLocal = messageSizeUnlimited :=
  if_pos ⟨h, Or.inl rfl⟩

/-- **When the local limit is large enough for a command**: no local limit is configured, or the sum
is the value for no limit, or it does not overflow and exceeds the limits of UDP and of every TCP
endpoint by what the command adds.

**Proof sketch.** The largest message that an endpoint accepts fits only if this is so. A sum that
overflows is less than the size of a UDP message, and an unlimited endpoint accepts messages of all
sizes. -/
lemma largeEnoughFor_iff : s.LargeEnoughFor c ↔
    s.maxLocalMessageSize = 0 ∨ s.largest + 13 = 2 ^ 32 - 1 ∨
      (s.largest + 13 < 2 ^ 32 ∧ 1416 + overhead c ≤ s.largest + 13 ∧
        ∀ address port, 16 ≤ (s.getMaxMessageSizeReliable address port).toNat →
          (s.getMaxMessageSizeReliable address port).toNat + overhead c ≤ s.largest + 13) := by
  have hoverhead : 12 ≤ overhead c ∧ overhead c ≤ 14 := by
    unfold overhead
    split_ifs <;> omega
  by_cases hzero : s.maxLocalMessageSize = 0
  · exact iff_of_true (fun _ _ => Or.inl (getMaxMessageSizeLocal_of_zero hzero)) (Or.inl hzero)
  rw [or_iff_right hzero]
  have hlocal := toNat_getMaxMessageSizeLocal hzero
  have hlt := s.largest_lt
  by_cases hedge : s.largest + 13 = 2 ^ 32 - 1
  · refine iff_of_true (fun _ _ => Or.inl (UInt32.toNat_inj.mp ?_)) (Or.inl hedge)
    rw [hlocal, hedge]
    rfl
  rw [or_iff_right hedge]
  have hlimited : s.getMaxMessageSizeLocal ≠ messageSizeUnlimited := by
    intro h
    rw [h] at hlocal
    have : messageSizeUnlimited.toNat = 2 ^ 32 - 1 := rfl
    omega
  have hfits (d : LocalData) : Accepts s.getMaxMessageSizeLocal (7 + d.completeSize c) ↔
      d.message.length + overhead c ≤ (s.largest + 13) % 2 ^ 32 := by
    unfold Accepts
    rw [or_iff_right hlimited, completeSize_eq, hlocal]
  constructor
  · intro h
    have hsize {n : ℕ} (hheader : 16 ≤ n) (hsize : n < 2 ^ 32) (haccepted : s.AcceptedRemotely n) :
        n + overhead c ≤ (s.largest + 13) % 2 ^ 32 := by
      obtain ⟨d, rfl⟩ := exists_localData hheader hsize
      exact (hfits d).mp (h d haccepted)
    have hudp := hsize (by omega : 16 ≤ 1416) (by omega) (Or.inl (Or.inr (Nat.le_refl 1416)))
    refine ⟨by omega, by omega, fun address port hheader => ?_⟩
    have htcp := hsize hheader (UInt32.toNat_lt _)
      (Or.inr ⟨address, port, Or.inr (Nat.le_refl _)⟩)
    omega
  · rintro ⟨hsum, hudp, htcp⟩ d haccepted
    rw [hfits, Nat.mod_eq_of_lt hsum]
    have hheader := d.headed
    rcases haccepted with (hunlimited | hle) | ⟨address, port, hunlimited | hle⟩
    · exact absurd hunlimited (by decide)
    · change _ ≤ 1416 at hle
      omega
    · have hmax : messageSizeUnlimited.toNat = 2 ^ 32 - 1 := rfl
      have := htcp address port
      rw [hunlimited] at this
      omega
    · have := htcp address port (hheader.trans hle)
      omega

/-- **When the local limit is large enough**: no local limit is configured, or the sum is the value for
no limit, or it does not overflow and the largest of the sizes from which it is made is above the
limits of UDP and of every TCP endpoint.

**Proof sketch.** NOTIFY_ONE adds most to a message, one byte more than the sum has. -/
theorem largeEnough_iff (s : MessageSizes) : s.LargeEnough ↔
    s.maxLocalMessageSize = 0 ∨ s.largest + 13 = 2 ^ 32 - 1 ∨
      (s.largest + 13 < 2 ^ 32 ∧ 1416 < s.largest ∧
        ∀ address port, (s.getMaxMessageSizeReliable address port).toNat < s.largest) := by
  constructor
  · intro h
    refine (largeEnoughFor_iff.mp (h .notifyOne)).imp_right
      (Or.imp_right fun ⟨hsum, hudp, htcp⟩ => ?_)
    change 1416 + 14 ≤ s.largest + 13 at hudp
    refine ⟨hsum, by omega, fun address port => ?_⟩
    by_cases hheader : 16 ≤ (s.getMaxMessageSizeReliable address port).toNat
    · have : _ + 14 ≤ s.largest + 13 := htcp address port hheader
      omega
    · omega
  · intro h c
    have hoverhead : overhead c ≤ 14 := by
      unfold overhead
      split_ifs <;> omega
    refine largeEnoughFor_iff.mpr (h.imp_right (Or.imp_right fun ⟨hsum, hudp, htcp⟩ => ?_))
    refine ⟨hsum, by omega, fun address port _ => ?_⟩
    have := htcp address port
    omega

/-- **With a limit that is large enough nothing is dropped**: an endpoint with the local limit does not
find the command of a message too big that an endpoint of the network accepts. -/
theorem LargeEnoughFor.not_tooBig (h : s.LargeEnoughFor c) {d : LocalData}
    (haccepted : s.AcceptedRemotely d.message.length) (queueLimit : UInt32) :
    ¬ SendConfig.TooBig ⟨s.getMaxMessageSizeLocal, queueLimit⟩ (d.command c) := by
  have hlength : (d.command c).length ≤ 7 + d.completeSize c := by
    refine (List.length_take_le' ..).trans_eq ?_
    rw [List.length_append, Command.length_header, List.length_append, LocalData.length_trailer,
      LocalData.completeSize]
    omega
  exact accepts_iff_not_tooBig.mp ((h d haccepted).imp_right hlength.trans)

/-- A local limit is not smaller than that for all TCP endpoints after it was increased. -/
lemma maxReliableMessageSize_raiseLocal (s : MessageSizes) : s.raiseLocal.maxLocalMessageSize = 0 ∨
    s.raiseLocal.maxReliableMessageSize ≤ s.raiseLocal.maxLocalMessageSize := by
  unfold raiseLocal
  generalize (if s.maxLocalMessageSize ≠ 0 ∧ s.maxConfiguredMessageSize ≠ 0 ∧
    s.maxConfiguredMessageSize > s.maxLocalMessageSize then
      { s with maxLocalMessageSize := s.maxConfiguredMessageSize } else s) = s'
  dsimp only
  split_ifs with h
  · exact Or.inr (UInt32.le_refl _)
  · by_cases hlocal : s'.maxLocalMessageSize = 0
    · exact Or.inl hlocal
    · refine Or.inr (UInt32.not_lt.mp fun hlt => ?_)
      by_cases hreliable : s'.maxReliableMessageSize = 0
      · rw [hreliable] at hlt
        exact UInt32.not_lt_zero hlt
      · exact h ⟨hlocal, hreliable, hlt⟩

/-- The TCP limits are among the sizes from which the local limit is made, if there is a limit for all
endpoints that the local one is not below. -/
lemma getMaxMessageSizeReliable_le_largest (hreliable : s.maxReliableMessageSize ≠ 0)
    (hle : s.maxReliableMessageSize ≤ s.maxLocalMessageSize) (address : String) (port : UInt16) :
    (s.getMaxMessageSizeReliable address port).toNat ≤ s.largest := by
  unfold getMaxMessageSizeReliable
  cases hsize : s.messageSizes address port with
  | some size => exact (UInt32.le_iff_toNat_le.mp (s.bounded hsize)).trans (Nat.le_max_right _ _)
  | none =>
    dsimp only
    rw [if_neg hreliable]
    exact (UInt32.le_iff_toNat_le.mp hle).trans
      ((Nat.le_max_left _ _).trans (Nat.le_max_left _ _))

/-- An element with an array `payload-sizes` makes the local limit large enough for the other two
commands, if there is a limit for all TCP endpoints and the sum does not overflow. -/
theorem largeEnoughFor_loadPayloadSizes (s : MessageSizes) {e : PayloadSizes}
    (harray : e.payloadSizes ≠ none) (hc : c ≠ .notifyOne)
    (hreliable : (s.loadPayloadSizes e).maxReliableMessageSize ≠ 0)
    (hsum : (s.loadPayloadSizes e).largest + 13 < 2 ^ 32) :
    (s.loadPayloadSizes e).LargeEnoughFor c := by
  rw [largeEnoughFor_iff]
  have hoverhead : overhead c = 12 := if_neg hc
  have hraised : (s.loadPayloadSizes e).maxLocalMessageSize = 0 ∨
      (s.loadPayloadSizes e).maxReliableMessageSize ≤ (s.loadPayloadSizes e).maxLocalMessageSize := by
    obtain ⟨sizes, hsizes⟩ := Option.ne_none_iff_exists'.mp harray
    simp only [loadPayloadSizes, hsizes]
    exact maxReliableMessageSize_raiseLocal _
  refine hraised.imp_right fun hle => Or.inr ⟨hsum, ?_, fun address port _ => ?_⟩
  · have := (s.loadPayloadSizes e).udp_le_largest
    omega
  · have := getMaxMessageSizeReliable_le_largest hreliable hle address port
    omega

/-! ## A limit that is too small -/

/-- The payload sizes of the configuration of the tests. -/
def testElement : PayloadSizes where
  maxPayloadSizeLocal := some 15000
  maxPayloadSizeReliable := some 17000
  payloadSizes := some [("10.10.10.10", [⟨some 7777, some 14999⟩]),
    ("10.10.10.11", [⟨some 7778, some 15001⟩])]

/-- A message of 17016 bytes is accepted on TCP, but its command NOTIFY_ONE has 17030 bytes, and 17029
are allowed. -/
theorem not_largeEnough : ¬ (init.loadPayloadSizes testElement).LargeEnough := by
  intro h
  obtain ⟨d, hd⟩ := exists_localData (by decide : 16 ≤ 17016) (by decide)
  have haccepted : (init.loadPayloadSizes testElement).AcceptedRemotely d.message.length := by
    refine Or.inr ⟨"11.11.11.11", 4711, Or.inr ?_⟩
    rw [hd]
    decide +kernel
  have hlimit : (init.loadPayloadSizes testElement).getMaxMessageSizeLocal = 17029 := by
    decide +kernel
  rcases h .notifyOne d haccepted with hunlimited | hle
  · rw [hlimit] at hunlimited
    exact absurd hunlimited (by decide)
  · rw [hlimit, completeSize_eq, hd] at hle
    exact absurd hle (by decide)

end MessageSizes

end Vsomeip
