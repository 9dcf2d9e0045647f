import Vsomeip.ServiceDiscovery.OfferPaging
import Vsomeip.ServiceDiscovery.Reboot
import Vsomeip.ServiceDiscovery.RoundTrip

set_option relaxedAutoImplicit false
set_option autoImplicit false

/-!
# Reception of service discovery messages

`service_discovery_impl::on_message` takes the bytes of a message that an endpoint has received, checks
the address of its sender and its header, looks for a reboot of the sender, and processes the entries
one by one. What an OfferService entry or the end of an offer says about a service instance is handed
over to the routing, together with the endpoints that are found in the options of the entry.

The timers, the answers to FindService entries and to entries for eventgroups, and the tables of remote
offers, are not in this module.

## Main definitions

* `Vsomeip.Sd.Reception.RoutingCall` — what the service discovery tells the routing.
* `Vsomeip.Sd.Reception.NodeConfig.processServiceentry`, `onMessage` — the functions of the source.
* `Vsomeip.Sd.MessageImpl.announced` — a message as `create_message` and `serialize_and_send` build it.

## Main results

* `Vsomeip.Sd.MessageImpl.Built.deserialize_eq` — what the receiver has of a message that was built with
  the API: its header, flags, entries and options.
-/

namespace Vsomeip.Sd

open Deserializer Serializer

/-! ## The flags and the header -/

/-- `VSOMEIP_REBOOT_FLAG`. -/
def rebootFlagMask : UInt8 := 0x80

/-- The header of `runtime_impl::create_message`. `VSOMEIP_SD_CLIENT` is the diagnosis address in the
higher byte. -/
def sdHeader (diagnosisAddress : UInt8) : MessageHeaderImpl :=
  { MessageHeaderImpl.default with
    service := 0xFFFF, method := 0x8100, client := diagnosisAddress.toUInt16 <<< 8,
    protocolVersion := 0x01, interfaceVersion := 0x01, type := 0x02, code := 0x00 }

namespace MessageImpl

/-- `get_reboot_flag`. -/
def getRebootFlag (m : MessageImpl) : Bool := m.flags &&& rebootFlagMask != 0

/-- `set_reboot_flag`. -/
def setRebootFlag (m : MessageImpl) (isSet : Bool) : MessageImpl :=
  { m with flags := if isSet then m.flags ||| rebootFlagMask else m.flags &&& ~~~rebootFlagMask }

/-- A message with the header of `create_message`, and the number that is set before it is sent. -/
def announced (m : MessageImpl) (diagnosisAddress : UInt8) (number : Session.Number) : MessageImpl :=
  setRebootFlag { m with header := { sdHeader diagnosisAddress with session := number.1 } } number.2

/-- The reboot flag is read back. -/
@[simp] lemma getRebootFlag_setRebootFlag (m : MessageImpl) (isSet : Bool) :
    (m.setRebootFlag isSet).getRebootFlag = isSet := by
  cases isSet with
  | false =>
    have hclear : (m.flags &&& ~~~rebootFlagMask) &&& rebootFlagMask = 0 := by
      rw [UInt8.and_assoc, UInt8.not_and_self, UInt8.and_zero]
    simp [getRebootFlag, setRebootFlag, hclear]
  | true =>
    have hset : (m.flags ||| rebootFlagMask) &&& rebootFlagMask = rebootFlagMask := by
      apply UInt8.eq_of_toBitVec_eq
      ext i hi
      simpa using fun h : rebootFlagMask.toBitVec[i] = true => Or.inr h
    have hmask : rebootFlagMask ≠ 0 := by decide
    simpa [getRebootFlag, setRebootFlag, hset] using hmask

end MessageImpl

/-! ## What a receiver has of a message -/

namespace MessageImpl

/-- The bytes behind the entries. -/
def optionsPart (m : MessageImpl) : List UInt8 :=
  [longByte3 m.optionsByteLength, longByte2 m.optionsByteLength, longByte1 m.optionsByteLength,
    longByte0 m.optionsByteLength] ++ m.options.flatMap SdOption.bytes

/-- The entries do not touch the header. -/
lemma header_foldl_addEntry (es : List Entry) (m : MessageImpl) :
    (es.foldl addEntry m).header = m.header := by
  induction es generalizing m with
  | nil => rfl
  | cons e es ih =>
    rw [List.foldl_cons, ih]
    unfold addEntry
    split_ifs <;> rfl

/-- The header, the flags and the entries are read, and what remains are the options. -/
lemma Built.deserializeEntries_eq {m : MessageImpl} (h : m.Built) (hlen : m.entries.length < 2 ^ 28)
    (stray : ℕ → UInt8) : ∃ d, deserializeEntries (Deserializer.setData m.bytes stray) =
        (some (some ((m.entries.map Entry.received).foldl addEntry m.start)), d) ∧
      d.data.drop d.position = m.optionsPart ∧ d.remaining = m.optionsPart.length := by
  have hE := entriesLength_toNat hlen
  obtain ⟨d₁, h₁, hdata₁, hpos₁, hrem₁⟩ := m.decodes_deserializePrelude
    (Deserializer.setData m.bytes stray) _ (show m.bytes.drop 0 = m.preludeBytes ++ _ from rfl)
    (show m.preludeBytes.length ≤ m.bytes.length by simp [bytes])
  change d₁.data = m.bytes at hdata₁
  change d₁.position = 0 + 24 at hpos₁
  change d₁.remaining = m.bytes.length - 24 at hrem₁
  have hdrop₁ : d₁.data.drop d₁.position = m.entries.flatMap Entry.bytes ++ m.optionsPart := by
    rw [hdata₁, hpos₁, show 0 + 24 = m.preludeBytes.length from rfl, bytes, List.drop_left]
    rfl
  obtain ⟨d₂, h₂, hdata₂, hpos₂⟩ := entriesLoop_eq m.entries h.entries m.entriesLength.toNat
    m.start (d₁.setRemaining m.entriesLength.toNat) _ hdrop₁ hE le_rfl
  change d₂.data = d₁.data at hdata₂
  change d₂.position = d₁.position + _ at hpos₂
  refine ⟨d₂.setRemaining (UInt32.ofNat d₁.remaining - m.entriesLength).toNat, ?_, ?_, ?_⟩
  · rw [deserializeEntries_of_some h₁, h₂]
  · change d₂.data.drop d₂.position = m.optionsPart
    rw [hdata₂, hpos₂, ← List.drop_drop, hdrop₁, ← length_flatMap_entries, List.drop_left]
  · -- The difference of the two 32-bit numbers is right even if the message is longer.
    have hn := m.length_bytes
    have hopt := length_flatMap_bytes_le h.options
    have hcount := h.count
    have hpart : m.optionsPart.length = 4 + (m.options.flatMap SdOption.bytes).length :=
      List.length_append
    rw [remaining_setRemaining, hrem₁, UInt32.toNat_sub, UInt32.toNat_ofNat', hE, hn, hpart]
    omega

/-- The options are read. -/
lemma Built.deserializeOptions_eq {m : MessageImpl} (h : m.Built) (m' : MessageImpl) {d : Deserializer}
    (hdrop : d.data.drop d.position = m.optionsPart) (hrem : d.remaining = m.optionsPart.length) :
    (deserializeOptions (some m') d).1 =
      some { m' with optionsLength := m.optionsByteLength, options := m.options } := by
  have hpart : m.optionsPart.length = 4 + (m.options.flatMap SdOption.bytes).length :=
    List.length_append
  obtain ⟨d₁, h₁, hdata₁, hpos₁, hrem₁⟩ := decodes_deserialize32 m.optionsByteLength d _ hdrop
    (show 4 ≤ d.remaining by omega)
  change d₁.position = d.position + 4 at hpos₁
  change d₁.remaining = d.remaining - 4 at hrem₁
  have hmin : min d₁.remaining ((some m.optionsByteLength).getD 0).toNat =
      (m.options.flatMap SdOption.bytes).length := by
    rw [Option.getD_some, h.optionsByteLength_toNat]
    omega
  have hdrop₁ : d₁.data.drop d₁.position = m.options.flatMap SdOption.bytes ++ [] := by
    rw [hdata₁, hpos₁, ← List.drop_drop, hdrop, List.append_nil]
    rfl
  obtain ⟨d₂, h₂⟩ := optionsLoop_eq m.options h.options _ []
    (d₁.setRemaining (m.options.flatMap SdOption.bytes).length) [] hdrop₁ rfl le_rfl
  rw [remaining_setRemaining, ← hmin, List.nil_append] at h₂
  rw [Sd.deserializeOptions_eq (some m') (by omega) h₁ h₂]

/-- **What the receiver has of a message** that was built with the API: the header with the length
field of the message, the flags, the entries and the options. -/
lemma Built.deserialize_eq {m : MessageImpl} (h : m.Built) (hlen : m.entries.length < 2 ^ 28)
    (stray : ℕ → UInt8) : ∃ r, (deserializeSdMessage m.bytes stray).1 = some r ∧
      r.header = { m.header with length := m.getLength } ∧ r.flags = m.flags ∧
      r.entries = m.entries.map Entry.received ∧ r.options = m.options := by
  obtain ⟨d, hentries, hdrop, hrem⟩ := h.deserializeEntries_eq hlen stray
  have hrun : (deserializeSdMessage m.bytes stray).1 =
      some { (m.entries.map Entry.received).foldl addEntry m.start with
        optionsLength := m.optionsByteLength, options := m.options } := by
    rw [deserializeSdMessage, deserialize, Parse.bind_of_some hentries]
    exact h.deserializeOptions_eq _ hdrop hrem
  refine ⟨_, hrun, ?_, ?_, ?_, rfl⟩
  · exact header_foldl_addEntry _ _
  · exact flags_foldl_addEntry _ _
  · exact h.entries_received _ rfl

end MessageImpl

/-! ## The reception -/

/-- `is_multicast` of `boost::asio::ip::address`. -/
def IpAddress.isMulticast : IpAddress → Bool
  | v4 bytes => bytes.head &&& 0xF0 == 0xE0
  | v6 bytes => bytes.head == 0xFF

namespace Reception

/-- What the service discovery tells the routing when it receives a message. -/
inductive RoutingCall
  | addRoutingInfo (key : UInt16 × UInt16) (major : UInt8) (minor ttl : UInt32)
      (endpoints : ServiceEndpoints)
  | delRoutingInfo (key : UInt16 × UInt16) (hasReliable hasUnreliable : Bool)
  | expireSubscriptions (address : IpAddress)
  | expireServices (address : IpAddress)

/-- What does not change at a node: its unicast address, `is_suspended_`, `is_diagnosis_`, and
`get_ttl_factor` for `ttl_factor_offers_`. -/
structure NodeConfig where
  unicast : IpAddress
  isSuspended : Bool
  isDiagnosis : Bool
  ttlFactor : UInt16 × UInt16 → UInt32

/-- `sessions_received_`, and what the routing was told until now, with the sender and the destination
of the message that led to it. -/
structure Node where
  sessionsReceived : IpAddress → Option Session.Received
  calls : List ((IpAddress × IpAddress) × RoutingCall)

namespace Node

/-- Nothing was received. -/
def init : Node := ⟨fun _ => none, []⟩

/-- What the routing was told because of the messages that a sender has sent to an address. -/
def callsFrom (s : Node) (sender destination : IpAddress) : List RoutingCall :=
  s.calls.filterMap fun call => if call.1 = (sender, destination) then some call.2 else none

end Node

/-- `check_static_header_fields`. -/
def checkStaticHeaderFields (h : MessageHeaderImpl) : Bool :=
  h.protocolVersion == 0x01 && h.interfaceVersion == 0x01 && h.type == 0x02 &&
    !(h.code > 0x00 && h.code < 0xFF)

namespace NodeConfig

variable (c : NodeConfig)

/-- What `process_serviceentry` tells the routing. -/
def processServiceentry (options : List SdOption) (entry : ServiceentryImpl) : List RoutingCall :=
  let x := ServiceEndpoints.ofEntry entry options
  let key := (entry.service, entry.instance_)
  if 0 < entry.ttl then
    match entry.type with
    | .offerService =>
      [.addRoutingInfo key entry.majorVersion entry.minorVersion (entry.ttl * c.ttlFactor key) x]
    | _ => []
  else if !c.isDiagnosis && !c.isSuspended then
    [.delRoutingInfo key (x.reliablePort != illegalPort) (x.unreliablePort != illegalPort)]
  else []

/-- What the routing is told because of an entry. -/
def processEntry (options : List SdOption) : Entry → List RoutingCall
  | .service entry => c.processServiceentry options entry
  | .eventgroup _ => []

/-- What the routing is told because of a reboot. -/
def reportReboot (reboot : Bool) (sender : IpAddress) : List RoutingCall :=
  if reboot then [.expireSubscriptions sender, .expireServices sender] else []

/-- `on_message`. The memory behind the data is `stray`. -/
def onMessage (s : Node) (data : List UInt8) (stray : ℕ → UInt8) (sender destination : IpAddress) :
    Node :=
  if c.isSuspended then s
  else if sender = c.unicast then s
  else
    match (deserializeSdMessage data stray).1 with
    | none => s
    | some m =>
      if checkStaticHeaderFields m.header then
        let (reboot, sessionsReceived) := Session.isReboot IpAddress.isMulticast s.sessionsReceived
          sender destination m.getRebootFlag m.header.session
        let calls := reportReboot reboot sender ++ m.entries.flatMap (c.processEntry m.options)
        { sessionsReceived, calls := s.calls ++ calls.map ((sender, destination), ·) }
      else s

end NodeConfig

/-! ### One reception -/

section OnMessage

variable {c : NodeConfig} {s : Node} {data : List UInt8} {stray : ℕ → UInt8}
variable {sender destination : IpAddress}

/-- What a message does that the receiver does not ignore. -/
structure Carries (c : NodeConfig) (data : List UInt8) (number : Session.Number)
    (calls : List RoutingCall) : Prop where
  ne_zero : number.1 ≠ 0
  received : ∀ stray, ∃ m, (deserializeSdMessage data stray).1 = some m ∧
    checkStaticHeaderFields m.header ∧ (m.header.session, m.getRebootFlag) = number ∧
    m.entries.flatMap (c.processEntry m.options) = calls

/-- The calls of a message are added for its sender and its destination. -/
lemma callsFrom_append (calls : List RoutingCall)
    (sessionsReceived : IpAddress → Option Session.Received) (sender' destination' : IpAddress) :
    Node.callsFrom ⟨sessionsReceived, s.calls ++ calls.map ((sender, destination), ·)⟩ sender'
        destination' =
      s.callsFrom sender' destination' ++
        if (sender, destination) = (sender', destination') then calls else [] := by
  unfold Node.callsFrom
  rw [List.filterMap_append, List.filterMap_map]
  split_ifs with h
  · simp [h]
  · simp [h]

/-- A message of another sender neither changes what is stored for this one nor adds calls. -/
lemma onMessage_of_ne {other : IpAddress} (hne : other ≠ sender) :
    (c.onMessage s data stray other destination).sessionsReceived sender = s.sessionsReceived sender ∧
      ∀ d, (c.onMessage s data stray other destination).callsFrom sender d = s.callsFrom sender d := by
  unfold NodeConfig.onMessage
  split_ifs
  · exact ⟨rfl, fun _ => rfl⟩
  · exact ⟨rfl, fun _ => rfl⟩
  · cases (deserializeSdMessage data stray).1 with
    | none => exact ⟨rfl, fun _ => rfl⟩
    | some m =>
      dsimp only
      split_ifs
      · refine ⟨Session.isReboot_of_ne _ _ hne.symm _ _, fun d => ?_⟩
        rw [callsFrom_append, if_neg fun h => hne (congrArg Prod.fst h), List.append_nil]
      · exact ⟨rfl, fun _ => rfl⟩

/-- A message with a number that comes after the one stored adds its calls, and its number is
stored. -/
lemma Carries.onMessage {number : Session.Number} {calls : List RoutingCall} {channel : Session.Channel}
    (h : Carries c data number calls) (hactive : c.isSuspended = false) (hsender : sender ≠ c.unicast)
    (hchannel : destination.isMulticast = (channel == .multicast))
    (hbefore : Session.Before (Session.heard (s.sessionsReceived sender) channel) number) :
    (∀ d, Session.heard ((c.onMessage s data stray sender destination).sessionsReceived sender) d =
      if d = channel then number else Session.heard (s.sessionsReceived sender) d) ∧
    ∀ d, (c.onMessage s data stray sender destination).callsFrom sender d =
      s.callsFrom sender d ++ if destination = d then calls else [] := by
  obtain ⟨m, hm, hheader, hnumber, hcalls⟩ := h.received stray
  have hsession : m.header.session = number.1 := congrArg Prod.fst hnumber
  have hflag : m.getRebootFlag = number.2 := congrArg Prod.snd hnumber
  have hreboot := (Session.isReboot_eq_false_iff s.sessionsReceived sender hchannel h.ne_zero).mpr
    hbefore
  have hrun : c.onMessage s data stray sender destination =
      { sessionsReceived := (Session.isReboot IpAddress.isMulticast s.sessionsReceived sender
          destination number.2 number.1).2
        calls := s.calls ++ calls.map ((sender, destination), ·) } := by
    unfold NodeConfig.onMessage
    rw [hactive, if_neg Bool.false_ne_true, if_neg hsender, hm]
    dsimp only
    rw [if_pos hheader, hsession, hflag, hreboot, hcalls]
    rfl
  rw [hrun]
  refine ⟨fun d => ?_, fun d => ?_⟩
  · rw [Session.heard_isReboot s.sessionsReceived sender hchannel number d, hreboot,
      if_neg Bool.false_ne_true]
  · rw [callsFrom_append]
    simp only [Prod.mk.injEq, true_and]

end OnMessage

end Reception

end Vsomeip.Sd
