import Vsomeip.E2E.ProfileCustom
import Vsomeip.Endpoints.ResponseTarget
import Vsomeip.Message.MessageImpl
import Vsomeip.Routing.CommandCodec
import Vsomeip.Routing.EventRegistry
import Vsomeip.Routing.SelectiveRelease

set_option relaxedAutoImplicit false
set_option autoImplicit false

/-!
# The verdict of the E2E check

`routing_manager_impl::on_message` runs the E2E checker of a message that was received, and hands the
verdict on to the applications the message is delivered to: the one that hosts the routing manager, and
those that are reached by a local endpoint, in the bytes behind the message. The argument with the
verdict has a default. `deliver_specific_endpoint_message`, for clients with an exclusive proxy, does not
have the argument, so what it delivers is always valid.

What is sent to the network, which is an error, or a message that is passed on to another host, is left
out.

## Main definitions

* `Vsomeip.MessageRouter` — the tables that say where a message goes.
* `Vsomeip.MessageRouter.onMessage` — `on_message`, with the copies that are delivered.
* `Vsomeip.RouterConfig.verdict` — what the checker says.
* `Vsomeip.MessageRouter.Reached` — an application is reached by an endpoint of its own.

## Main results

* `Vsomeip.MessageRouter.carries_onServiceMessage` — the common way keeps the verdict.
* `Vsomeip.MessageRouter.carries_onMessage_iff` — when all copies have the verdict.
-/

namespace Vsomeip

open Function (update)

/-! ## Checkers -/

/-- A checker of `custom_checkers`. -/
inductive Checker
  | profile01 (cfg : Profile01.Config)
  | custom (cfg : ProfileCustom.Config)

/-- `check`. -/
def Checker.check : Checker → List UInt8 → GenericCheckStatus
  | profile01 cfg, buffer => Profile01.check cfg buffer
  | custom cfg, buffer => ProfileCustom.check cfg buffer

/-- An entry of the E2E configuration. -/
structure E2eEntry where
  variant : String
  profile : String
  serviceId : UInt16
  eventId : UInt16
  config : Profile01.Config

/-- The checker of an entry, if it is to have one. -/
def E2eEntry.checker (e : E2eEntry) : Option Checker :=
  if e.variant = "checker" ∨ e.variant = "both" then
    if e.profile = "CRC8" then some (.profile01 e.config)
    else if e.profile = "CRC32" then some (.custom ⟨e.config.crcOffset⟩)
    else none
  else none

/-- What the routing manager asks its configuration, and what it finds outside of the data. -/
structure RouterConfig where
  isE2eEnabled : Bool
  e2e : List E2eEntry
  isSecurityEnabled : Bool
  isOfferedRemote : InstanceKey → Bool
  isClientAllowed : UInt16 → InstanceKey → Bool
  maxSize : ℕ
  stray : ℕ → UInt8

/-- `custom_checkers`, as `routing_manager_impl::init` fills it. -/
def RouterConfig.customCheckers (cfg : RouterConfig) : UInt16 × UInt16 → Option Checker :=
  if cfg.isE2eEnabled then
    cfg.e2e.foldl (fun checkers e =>
      match e.checker with
      | some checker => update checkers (e.serviceId, e.eventId) (some checker)
      | none => checkers) fun _ => none
  else fun _ => none

/-! ## Messages -/

/-- `utility::is_notification` on the byte of a message type. -/
def isNotification (type : UInt8) : Bool := type = 0x02

/-- `utility::is_valid_message_type`. -/
def isValidMessageType (type : UInt8) : Bool :=
  type ∈ [0x00, 0x01, 0x02, 0x40, 0x41, 0x42, 0x80, 0x81, 0xC0, 0xC1, 0xFF]

/-- The data of a message that was received, with a size of 32 bits. -/
structure ReceivedData where
  data : List UInt8
  sized : data.length < 2 ^ 32

/-- A message with all of its header. -/
structure HeadedData extends ReceivedData where
  headed : 16 ≤ data.length

namespace ReceivedData

variable (m : ReceivedData)

/-- The service of the message. -/
def service : UInt16 := bytesToWord (m.data.getD 0 0) (m.data.getD 1 0)

/-- The method of the message. -/
def method : UInt16 := bytesToWord (m.data.getD 2 0) (m.data.getD 3 0)

/-- The client of the message. -/
def client : UInt16 := bytesToWord (m.data.getD 8 0) (m.data.getD 9 0)

/-- The type of the message. -/
def type : UInt8 := m.data.getD 14 0

/-- The bytes behind the header. -/
def payload : List UInt8 := m.data.drop 16

end ReceivedData

/-- The client of a message is set to 0. -/
def HeadedData.resetClient (m : HeadedData) : HeadedData where
  data := (m.data.set 8 0).set 9 0
  sized := by simpa using m.sized
  headed := by simpa using m.headed

/-- `utility::get_payload_size`. -/
def HeadedData.payloadSize (m : HeadedData) : UInt32 :=
  bytesToLong (m.data.getD 4 0) (m.data.getD 5 0) (m.data.getD 6 0) (m.data.getD 7 0) - 8

/-- What the checker says of a message: it is valid unless there is a checker that does not accept it. -/
def RouterConfig.verdict (cfg : RouterConfig) (m : ReceivedData) : Bool :=
  match cfg.customCheckers (m.service, m.method) with
  | some checker => checker.check m.payload = .e2eOk
  | none => true

/-- The part of `on_message` that runs the checker. -/
def RouterConfig.isCrcValid (cfg : RouterConfig) (m : ReceivedData) : Bool :=
  if cfg.isE2eEnabled then
    match cfg.customCheckers (m.service, m.method) with
    | some checker => if checker.check m.payload ≠ .e2eOk then false else true
    | none => true
  else true

/-- Without E2E protection there are no checkers. -/
lemma RouterConfig.isCrcValid_eq_verdict (cfg : RouterConfig) (m : ReceivedData) :
    cfg.isCrcValid m = cfg.verdict m := by
  rw [isCrcValid, verdict]
  split
  · cases cfg.customCheckers (m.service, m.method) with
    | none => rfl
    | some checker => by_cases hcheck : checker.check m.payload = .e2eOk <;> simp [hcheck]
  · rename_i hdisabled
    rw [customCheckers, if_neg hdisabled]

/-! ## Copies -/

/-- A copy of a message, for the application that hosts the routing manager or in a command for a local
client. -/
inductive Copy
  | host (message : MessageImpl) (instance_ : UInt16) (reliable isValidCrc : Bool)
  | sendLocal (target : UInt16) (d : LocalData)

/-- The application gets a copy with this flag. A proxy takes it out of the command. -/
def Copy.Carries (isValidCrc : Bool) : Copy → Prop
  | host _ _ _ flag => flag = isValidCrc
  | sendLocal _ d => ∀ cfg calls, ProxyCommand.onMessage cfg (d.command .send) = .ok calls →
    ∀ message instance_ reliable flag, .onMessage message instance_ reliable flag ∈ calls →
      flag = isValidCrc

/-- A copy in a command has the flag that was written, but for one that is too large. -/
lemma Copy.carries_sendLocal_iff {target : UInt16} {d : LocalData} {isValidCrc : Bool} :
    (Copy.sendLocal target d).Carries isValidCrc ↔
      isValidCrc = d.isValidCrc ∨ 2 ^ 32 ≤ d.message.length + 12 := by
  have hsize : 7 + d.completeSize .send = d.message.length + 12 := by
    change 7 + (d.message.length + 5) = _
    omega
  constructor
  · intro hcarries
    refine or_iff_not_imp_right.mpr fun hfits => ?_
    obtain ⟨cfg, hpasses⟩ := d.exists_proxyPasses
    have hcalls := LocalData.proxy_onMessage_command (by omega) hpasses
    exact (hcarries cfg _ hcalls _ _ _ _ List.mem_cons_self).symm
  · rintro (rfl | hlarge)
    · exact fun cfg calls hcalls _ _ _ _ hmem => LocalData.flag_of_proxy_onMessage hcalls hmem
    · intro cfg calls hcalls _ _ _ _ hmem
      rw [LocalData.proxy_onMessage_large (by omega) hcalls] at hmem
      cases hmem

/-! ## The router -/

/-- `event::set_payload_dont_notify`, and whether the payload was taken. -/
def Event.setPayloadDontNotify (ev : Event) (payload : List UInt8) : Event × Bool :=
  if ev.isCachePlaceholder ∨ ¬ ev.isField ∨ ev.epsilonChange ev.payload payload then
    ({ ev with payload := payload, isSet := true }, true)
  else (ev, false)

/-- The values of `return_code_e` that `check_error` has. -/
inductive ReturnCode
  | ok
  | notOk
  | unknownService
  | wrongProtocolVersion
  | wrongInterfaceVersion
  | malformedMessage
deriving DecidableEq

/-- The endpoint that has received a message. -/
structure Receiver where
  endpoint : ℕ
  isReliable : Bool

/-- The tables of the routing manager that say where a message goes. -/
structure MessageRouter (Address : Type) where
  /-- `host_->get_client()`. -/
  client : UInt16
  /-- The clients in `local_services_`. -/
  localServices : InstanceKey → Option UInt16
  /-- The clients with an entry in `local_endpoints_`. -/
  localEndpoints : UInt16 → Bool
  clients : SelectiveClients Address
  events : InstanceKey → UInt16 → Option Event
  /-- `is_shadow` of the events. -/
  isShadow : InstanceKey → UInt16 → Bool

namespace MessageRouter

variable {Address : Type} (cfg : RouterConfig) (h : MessageRouter Address)

/-- `find_local_client`. -/
def findLocalClient (k : InstanceKey) : UInt16 := (h.localServices k).getD routingClient

/-- `find_instance`. -/
def findInstance (service : UInt16) (receiver : Receiver) : UInt16 :=
  (h.clients.serviceInstances service receiver.endpoint).getD 0xFFFF

/-- A `send_local` to a client with an endpoint. The second client is the argument. -/
def sendLocal (target client : UInt16) (m : HeadedData) (instance_ : UInt16) (flush reliable
    isValidCrc : Bool) : List Copy :=
  if h.localEndpoints target then
    [.sendLocal target ⟨h.client, client, m.data, instance_, flush, reliable, isValidCrc, m.headed,
      m.sized⟩]
  else []

/-- `deliver_message`. There is no copy if the message cannot be deserialized. -/
def deliverMessage (m : HeadedData) (instance_ : UInt16) (reliable isValidCrc : Bool) : List Copy :=
  match (MessageImpl.deserialize cfg.maxSize (.setData m.data cfg.stray)).1 with
  | .message message => [.host message instance_ reliable isValidCrc]
  | _ => []

/-- The loop of `deliver_notification`. -/
def deliverToSubscribers (ev : Event) (m : HeadedData) (instance_ : UInt16)
    (reliable isValidCrc : Bool) : List Copy :=
  ev.allSubscribers.flatMap fun c =>
    if c = h.client then deliverMessage cfg m instance_ reliable isValidCrc
    else h.sendLocal c routingClient m instance_ true reliable isValidCrc

/-- `deliver_notification`. -/
def deliverNotification (k : InstanceKey) (m : HeadedData) (reliable isValidCrc : Bool) :
    MessageRouter Address × List Copy :=
  match h.events k m.method with
  | none => (h, [])
  | some ev =>
    if ev.isProvided then (h, h.deliverToSubscribers cfg ev m k.2 reliable isValidCrc)
    else
      let (ev', taken) := ev.setPayloadDontNotify (m.payload.take m.payloadSize.toNat)
      let h' := { h with events := update h.events k (update (h.events k) m.method (some ev')) }
      (h', if taken then h'.deliverToSubscribers cfg ev' m k.2 reliable isValidCrc else [])

/-- `send_local_notification`. -/
def sendLocalNotification (client : UInt16) (k : InstanceKey) (m : HeadedData)
    (flush reliable isValidCrc : Bool) : List Copy :=
  match h.events k m.method with
  | none => []
  | some ev =>
    if h.isShadow k m.method then []
    else ev.allSubscribers.flatMap fun c =>
      if c = routingClient then []
      else h.sendLocal c client m k.2 flush reliable isValidCrc

/-- The copies that `routing_manager_impl::send` makes if there is no local target. A local copy of a
notification with a protector has the bytes of the message here, and those with the protection in the
source; the verdict does not depend on them. -/
def sendWithoutTarget (m : HeadedData) (instance_ : UInt16) (flush reliable isValidCrc : Bool) :
    List Copy :=
  if (m.client = h.client ∧ ¬ isRequest m.type) ∨
      (h.findLocalClient (m.service, instance_) = h.client ∧ isRequest m.type) then
    deliverMessage cfg m instance_ reliable isValidCrc
  else if isNotification m.type ∧ ¬ (m.service = 0xFFFF ∧ m.method = 0x8100) ∧
      (h.clients.tables.requests.services (m.service, instance_)).isSome then
    h.sendLocalNotification h.client (m.service, instance_) m flush reliable isValidCrc
  else []

/-- `routing_manager_impl::send`. -/
def send (client : UInt16) (m : HeadedData) (instance_ : UInt16) (flush reliable isValidCrc : Bool) :
    List Copy :=
  if isNotification m.type ∧ client ≠ 0 ∧ client = h.client then
    deliverMessage cfg m instance_ reliable isValidCrc
  else
    let target :=
      if isRequest m.type then some (h.findLocalClient (m.service, instance_))
      else if ¬ isNotification m.type then some m.client
      else if client ≠ 0 then some client
      else none
    match target.filter h.localEndpoints with
    | some c => h.sendLocal c h.client m instance_ flush reliable isValidCrc
    | none => h.sendWithoutTarget cfg m instance_ flush reliable isValidCrc

/-- `on_message` for a service, which is the common way of message handling. -/
def onServiceMessage (k : InstanceKey) (m : HeadedData) (reliable isValidCrc : Bool) :
    MessageRouter Address × List Copy :=
  let client := if isRequest m.type then h.findLocalClient k else m.client
  if client = routingClient ∧ isNotification m.type then
    h.deliverNotification cfg k m reliable isValidCrc
  else if client = h.client then (h, deliverMessage cfg m k.2 reliable isValidCrc)
  else (h, h.send cfg client m k.2 true reliable isValidCrc)

/-- The first client that has the receiver for an endpoint of its own. -/
def specificClient (k : InstanceKey) (receiver : Receiver) : Option UInt16 :=
  ((h.clients.tables.remoteServices.keys.filter fun key =>
    key.service = k ∧ key.client ≠ routingClient ∧ key.reliable = receiver.isReliable ∧
      h.clients.tables.entry key = some receiver.endpoint).map RemoteKey.client).min?

/-- `deliver_specific_endpoint_message`, if it returns true. What it delivers has the default for
`_is_valid_crc`. -/
def deliverSpecificEndpointMessage (k : InstanceKey) (m : HeadedData) (receiver : Receiver) :
    Option (List Copy) :=
  (h.specificClient k receiver).map fun c =>
    if c ≠ h.client then h.sendLocal c c m k.2 true receiver.isReliable true
    else deliverMessage cfg m k.2 receiver.isReliable true

/-! ### What is received -/

/-- `check_error`. -/
def checkError (m : ReceivedData) (instance_ : UInt16) : ReturnCode :=
  if 16 ≤ m.data.length then
    if isRequest m.type ∨ isRequestNoReturn m.type then
      if m.data.getD 12 0 ≠ 0x01 then .wrongProtocolVersion
      else if instance_ = 0xFFFF then .unknownService
      else if (h.clients.tables.requests.services (m.service, instance_)).any fun info =>
          m.data.getD 13 0 ≠ info.version.major then .wrongInterfaceVersion
      else if m.data.getD 15 0 ≠ 0 then .notOk
      else .ok
    else .ok
  else .malformedMessage

/-- The security checks of `on_message`, which are those of a request. -/
def isSkipped (k : InstanceKey) (m : ReceivedData) : Bool :=
  cfg.isSecurityEnabled && isRequest m.type &&
    (!cfg.isOfferedRemote k || h.localEndpoints m.client || !cfg.isClientAllowed m.client k)

/-- A message that is not malformed has all of its header. -/
lemma headed_of_checkError {m : ReceivedData} {instance_ : UInt16}
    (hcode : h.checkError m instance_ = .ok ∨ h.checkError m instance_ = .notOk) :
    16 ≤ m.data.length := by
  by_contra hshort
  simp [checkError, hshort] at hcode

/-- The part of `on_message` that ignores messages, and gives those of the service discovery to it. What
is left is a message of a service instance. -/
def accepted (receiver : Receiver) (m : ReceivedData) : Option (InstanceKey × HeadedData) :=
  if 8 ≤ m.data.length then
    if m.service = 0xFFFF then none
    else
      let instance_ := h.findInstance m.service receiver
      if 14 ≤ m.data.length ∧ ¬ isValidMessageType m.type then none
      else if hcode : h.checkError m instance_ = .ok ∨ h.checkError m instance_ = .notOk then
        if h.isSkipped cfg (m.service, instance_) m then none
        else some ((m.service, instance_), ⟨m, h.headed_of_checkError hcode⟩)
      else none
  else none

/-- A message that is accepted has the bytes that were received. -/
lemma data_of_accepted {cfg : RouterConfig} {h : MessageRouter Address} {receiver : Receiver}
    {data : ReceivedData} {k : InstanceKey} {m : HeadedData}
    (haccepted : h.accepted cfg receiver data = some (k, m)) : m.data = data.data := by
  rw [accepted] at haccepted
  dsimp only at haccepted
  split_ifs at haccepted
  rw [← (Prod.mk.inj (Option.some.inj haccepted)).2]

/-- `on_message` for an endpoint. The client of a notification is set to 0, unless it is delivered to a
client with an endpoint of its own. -/
def onMessage (receiver : Receiver) (data : ReceivedData) : MessageRouter Address × List Copy :=
  match h.accepted cfg receiver data with
  | none => (h, [])
  | some (k, m) =>
    match h.deliverSpecificEndpointMessage cfg k m receiver with
    | some copies => (h, copies)
    | none =>
      h.onServiceMessage cfg k (if isNotification m.type then m.resetClient else m)
        receiver.isReliable (cfg.isCrcValid data)

/-- The message is accepted, and an application gets it by an endpoint of its own. -/
def Reached (receiver : Receiver) (m : ReceivedData) : Prop :=
  ∃ k m' c, h.accepted cfg receiver m = some (k, m') ∧ h.specificClient k receiver = some c ∧
    if c = h.client then
      ∃ message, (MessageImpl.deserialize cfg.maxSize (.setData m.data cfg.stray)).1 = .message message
    else h.localEndpoints c ∧ m.data.length + 12 < 2 ^ 32

/-! ## The common way -/

section Carries

variable {cfg h} {m : HeadedData} {k : InstanceKey} {instance_ : UInt16}
  {flush reliable isValidCrc : Bool} {copy : Copy}

/-- A copy for a local client has the verdict. -/
lemma carries_sendLocal {target client : UInt16}
    (hcopy : copy ∈ h.sendLocal target client m instance_ flush reliable isValidCrc) :
    copy.Carries isValidCrc := by
  rw [sendLocal] at hcopy
  split at hcopy
  · obtain rfl := List.mem_singleton.mp hcopy
    exact Copy.carries_sendLocal_iff.mpr (.inl rfl)
  · cases hcopy

/-- A copy for the host has the verdict. -/
lemma carries_deliverMessage (hcopy : copy ∈ deliverMessage cfg m instance_ reliable isValidCrc) :
    copy.Carries isValidCrc := by
  rw [deliverMessage] at hcopy
  split at hcopy
  · obtain rfl := List.mem_singleton.mp hcopy
    rfl
  · cases hcopy

/-- The copies for the subscribers of an event have the verdict. -/
lemma carries_deliverToSubscribers {ev : Event}
    (hcopy : copy ∈ h.deliverToSubscribers cfg ev m instance_ reliable isValidCrc) :
    copy.Carries isValidCrc := by
  obtain ⟨c, -, hc⟩ := List.mem_flatMap.mp hcopy
  split at hc
  · exact carries_deliverMessage hc
  · exact carries_sendLocal hc

/-- The copies of a notification have the verdict. -/
lemma carries_deliverNotification
    (hcopy : copy ∈ (h.deliverNotification cfg k m reliable isValidCrc).2) :
    copy.Carries isValidCrc := by
  rw [deliverNotification] at hcopy
  split at hcopy
  · cases hcopy
  · split at hcopy
    · exact carries_deliverToSubscribers hcopy
    · dsimp only at hcopy
      split at hcopy
      · exact carries_deliverToSubscribers hcopy
      · cases hcopy

/-- The copies of a local notification have the verdict. -/
lemma carries_sendLocalNotification {client : UInt16}
    (hcopy : copy ∈ h.sendLocalNotification client k m flush reliable isValidCrc) :
    copy.Carries isValidCrc := by
  rw [sendLocalNotification] at hcopy
  split at hcopy
  · cases hcopy
  · split at hcopy
    · cases hcopy
    · obtain ⟨c, -, hc⟩ := List.mem_flatMap.mp hcopy
      split at hc
      · cases hc
      · exact carries_sendLocal hc

/-- The copies of a message without a remote target have the verdict. -/
lemma carries_sendWithoutTarget
    (hcopy : copy ∈ h.sendWithoutTarget cfg m instance_ flush reliable isValidCrc) :
    copy.Carries isValidCrc := by
  rw [sendWithoutTarget] at hcopy
  split at hcopy
  · exact carries_deliverMessage hcopy
  · split at hcopy
    · exact carries_sendLocalNotification hcopy
    · cases hcopy

/-- The copies that `send` makes have the verdict. -/
lemma carries_send {client : UInt16}
    (hcopy : copy ∈ h.send cfg client m instance_ flush reliable isValidCrc) :
    copy.Carries isValidCrc := by
  rw [send] at hcopy
  split at hcopy
  · exact carries_deliverMessage hcopy
  · dsimp only at hcopy
    split at hcopy
    · exact carries_sendLocal hcopy
    · exact carries_sendWithoutTarget hcopy

/-- **The common way keeps the verdict.** -/
lemma carries_onServiceMessage (hcopy : copy ∈ (h.onServiceMessage cfg k m reliable isValidCrc).2) :
    copy.Carries isValidCrc := by
  rw [onServiceMessage] at hcopy
  generalize (if isRequest m.type then h.findLocalClient k else m.client) = client at hcopy
  split at hcopy
  · exact carries_deliverNotification hcopy
  · split at hcopy
    · exact carries_deliverMessage hcopy
    · exact carries_send hcopy

end Carries

/-! ## The way to a client with an endpoint of its own -/

section Specific

variable {cfg h} {m : HeadedData} {k : InstanceKey} {receiver : Receiver} {copies : List Copy}

/-- The way to a client with an endpoint of its own keeps the verdict if the message is valid, or no
application is reached. -/
lemma carries_deliverSpecificEndpointMessage_iff {data : ReceivedData} {isValidCrc : Bool}
    (haccepted : h.accepted cfg receiver data = some (k, m))
    (hcopies : h.deliverSpecificEndpointMessage cfg k m receiver = some copies) :
    (∀ copy ∈ copies, copy.Carries isValidCrc) ↔ isValidCrc = true ∨ ¬ h.Reached cfg receiver data := by
  obtain ⟨c, hclient, hcopies⟩ := Option.map_eq_some_iff.mp hcopies
  have hdata : m.data = data.data := data_of_accepted haccepted
  have hreached : h.Reached cfg receiver data ↔ if c = h.client then
      ∃ message, (MessageImpl.deserialize cfg.maxSize (.setData m.data cfg.stray)).1 = .message message
      else h.localEndpoints c ∧ m.data.length + 12 < 2 ^ 32 := by
    rw [hdata]
    constructor
    · rintro ⟨k', m', c', haccepted', hclient', hreached⟩
      rw [haccepted, Option.some.injEq, Prod.mk.injEq] at haccepted'
      obtain ⟨rfl, rfl⟩ := haccepted'
      rw [hclient, Option.some.injEq] at hclient'
      exact hclient' ▸ hreached
    · exact fun hreached => ⟨k, m, c, haccepted, hclient, hreached⟩
  rw [hreached, ← hcopies]
  by_cases hhost : c = h.client
  · rw [if_neg (not_not.mpr hhost), if_pos hhost, deliverMessage]
    split
    · rename_i message hmessage
      simp [Copy.Carries, hmessage, eq_comm]
    · rename_i hfailure
      refine iff_of_true (fun copy hcopy => absurd hcopy List.not_mem_nil) (.inr ?_)
      rintro ⟨message, hmessage⟩
      exact hfailure message hmessage
  · rw [if_pos hhost, if_neg hhost, sendLocal]
    by_cases hendpoint : h.localEndpoints c = true
    · rw [if_pos hendpoint, List.forall_mem_singleton, Copy.carries_sendLocal_iff]
      simp [hendpoint]
    · rw [if_neg hendpoint]
      simp [hendpoint]

end Specific

/-- **All copies have the verdict** exactly if the message is valid, or no application gets it by an
endpoint of its own. -/
theorem carries_onMessage_iff (cfg : RouterConfig) (h : MessageRouter Address) (receiver : Receiver)
    (data : ReceivedData) :
    (∀ copy ∈ (h.onMessage cfg receiver data).2, copy.Carries (cfg.verdict data)) ↔
      cfg.verdict data = true ∨ ¬ h.Reached cfg receiver data := by
  rw [onMessage]
  split
  · rename_i hignored
    have hreached : ¬ h.Reached cfg receiver data := by
      rintro ⟨k, m, c, haccepted, -⟩
      rw [hignored] at haccepted
      cases haccepted
    simp [hreached]
  · rename_i k m haccepted
    split
    · rename_i copies hcopies
      exact carries_deliverSpecificEndpointMessage_iff haccepted hcopies
    · rename_i hcommon
      have hreached : ¬ h.Reached cfg receiver data := by
        rintro ⟨k', m', c, haccepted', hclient, -⟩
        rw [haccepted, Option.some.injEq, Prod.mk.injEq] at haccepted'
        rw [← haccepted'.1] at hclient
        rw [deliverSpecificEndpointMessage, hclient] at hcommon
        cases hcommon
      rw [cfg.isCrcValid_eq_verdict]
      exact iff_of_true (fun copy hcopy => carries_onServiceMessage hcopy) (.inr hreached)

/-! ## A response for a client with an exclusive proxy -/

/-- The methods of the service are protected by a CRC in front of their data. -/
def exampleConfig : RouterConfig where
  isE2eEnabled := true
  e2e := [⟨"checker", "CRC32", 0x1234, 0x0001, ⟨0, 0, .both, 0, 0, 0⟩⟩]
  isSecurityEnabled := false
  isOfferedRemote := fun _ => true
  isClientAllowed := fun _ _ => true
  maxSize := 2 ^ 32
  stray := fun _ => 0

/-- The client 0x101 has an endpoint of its own for the service. -/
def exampleRouter : MessageRouter UInt32 where
  client := 0
  localServices := fun _ => none
  localEndpoints := fun c => c = 0x101 ∨ c = 0x102
  clients := SelectiveClients.exampleClients
  events := fun _ _ => none
  isShadow := fun _ _ => false

/-- A response of the service with a CRC that is wrong. -/
def exampleResponse : ReceivedData where
  data := [0x12, 0x34, 0x00, 0x01, 0, 0, 0, 12, 0x01, 0x01, 0, 1, 1, 1, 0x80, 0, 0xFF, 0xFF, 0xFF, 0xFE]
  sized := by decide

/-- **A copy without the verdict**: the client 0x101 gets the response as a valid one. -/
theorem not_carries_response : ¬ ∀ (cfg : RouterConfig) (h : MessageRouter UInt32) (receiver : Receiver)
    (data : ReceivedData), ∀ copy ∈ (h.onMessage cfg receiver data).2,
      copy.Carries (cfg.verdict data) := by
  intro h
  have hverdict : exampleConfig.verdict exampleResponse = false := by decide
  have hcopies : (exampleRouter.onMessage exampleConfig ⟨1, true⟩ exampleResponse).2 =
      [.sendLocal 0x101 ⟨0, 0x101, exampleResponse.data, 1, true, true, true, by decide, by decide⟩] :=
    rfl
  have hcarries := h exampleConfig exampleRouter ⟨1, true⟩ exampleResponse
  rw [hcopies, List.forall_mem_singleton, hverdict, Copy.carries_sendLocal_iff] at hcarries
  exact absurd hcarries (by decide)

end MessageRouter

end Vsomeip
