import Vsomeip.Lib.Relay
import Vsomeip.Lib.Runs
import Vsomeip.Routing.CrcVerdict

set_option relaxedAutoImplicit false
set_option autoImplicit false

/-!
# Requests and responses between local applications

An application sends a request to the one that offers the service, or a response to the client that
has asked. Its `routing_manager_proxy` sends the message to the other application if it knows where it
is, and to the routing manager otherwise, which passes it on. The tables of the parties are not the
same: they change at any time, while commands are on their way.

Notifications are not followed on their way, and neither is what is sent to the network.

## Main definitions

* `Vsomeip.MessageProxy` — the tables of a proxy that say where a message goes.
* `Vsomeip.MessageProxy.send`, `Vsomeip.MessageProxy.onMessage` — `routing_manager_proxy::send` and the
  part of `on_message` that is about messages.
* `Vsomeip.MessageRouter.onCommand` — what the stub and the routing manager make of a SEND.
* `Vsomeip.LocalNet`, `Vsomeip.NetAction`, `Vsomeip.LocalNet.step` — the routing manager, the
  applications and the commands on their way, and what may happen in any order.

## Main results

* `Vsomeip.LocalNet.forwarded_run` — nothing is duplicated, changed or delivered to another application.
-/

namespace Vsomeip

open Relay

/-! ## The proxy -/

/-- The commands of `send_local` on their way. The target 0 stands for `sender_`, which is the
connection to the routing manager. -/
structure Transit where
  target : UInt16
  command : DataCommand
  data : LocalData

/-- A message that an application gets: the bytes that were deserialized, and what is set afterwards. -/
structure Delivery where
  client : UInt16
  data : List UInt8
  instance_ : UInt16
  reliable : Bool
  isValidCrc : Bool
deriving DecidableEq

/-- The tables of `routing_manager_proxy` that say where a message goes, whether it is registered, and
whether it has a `sender_`. -/
structure MessageProxy where
  isRegistered : Bool
  hasSender : Bool
  localServices : InstanceKey → Option UInt16
  knownClients : UInt16 → Bool
  localEndpoints : UInt16 → Bool
  events : InstanceKey → UInt16 → Option Event
  isShadow : InstanceKey → UInt16 → Bool

/-- The client that is asked whether it may use the service of a message: that in a request, and the one
that gets anything else. -/
def RouterConfig.admits (cfg : RouterConfig) (self : UInt16) (type : UInt8)
    (client service instance_ : UInt16) : Bool :=
  cfg.isClientAllowed (if isRequest type then client else self) (service, instance_)

/-- The size of a message with all of its header has 32 bits. -/
lemma HeadedData.sized_data (m : HeadedData) : m.data.length < 2 ^ 32 := m.sized

namespace MessageProxy

variable (cfg : RouterConfig) (self : UInt16) (p : MessageProxy)

/-- `find_local_client`. -/
def findLocalClient (k : InstanceKey) : UInt16 := (p.localServices k).getD routingClient

/-- The client that a request or a response is for, as the tables say. -/
def destination (m : ReceivedData) (instance_ : UInt16) : UInt16 :=
  if isRequest m.type then p.findLocalClient (m.service, instance_) else m.client

/-- The client for which a request or a response needs an endpoint: it is not the routing manager, and
it is known. -/
def findKnown (c : UInt16) : Option UInt16 :=
  if c ≠ routingClient ∧ p.knownClients c then some c else none

/-- `find_or_create_local`. -/
def createLocal (c : UInt16) : MessageProxy :=
  { p with localEndpoints := Function.update p.localEndpoints c true }

/-- A command with a message, and the client that is given to `send_local`. -/
def transit (target : UInt16) (command : DataCommand) (client : UInt16) (m : HeadedData)
    (instance_ : UInt16) (flush reliable isValidCrc : Bool) : Transit :=
  ⟨target, command, ⟨self, client, m.data, instance_, flush, reliable, isValidCrc, m.headed,
    m.sized_data⟩⟩

/-- A command to the routing manager, if there is a connection to it. -/
def toHost (command : DataCommand) (client : UInt16) (m : HeadedData) (instance_ : UInt16)
    (flush reliable isValidCrc : Bool) : List Transit :=
  if p.hasSender then [transit self routingClient command client m instance_ flush reliable isValidCrc]
  else []

/-- `send_local_notification`: the commands to local subscribers, and whether there are others. -/
def sendLocalNotification (m : HeadedData) (instance_ : UInt16) (flush reliable isValidCrc : Bool) :
    List Transit × Bool :=
  match p.events (m.service, instance_) m.method with
  | none => ([], false)
  | some ev =>
    if p.isShadow (m.service, instance_) m.method then ([], false)
    else
      ((ev.allSubscribers.filter fun c => c ≠ routingClient ∧ p.localEndpoints c).map fun c =>
        transit self c .send self m instance_ flush reliable isValidCrc,
        routingClient ∈ ev.allSubscribers)

/-- `routing_manager_proxy::send`. -/
def send (client : UInt16) (m : HeadedData) (instance_ : UInt16) (flush reliable isValidCrc : Bool) :
    MessageProxy × List Transit :=
  if ¬ p.isRegistered then (p, [])
  else if ¬ isNotification m.type then
    match p.findKnown (p.destination m.toReceivedData instance_) with
    | some c =>
      (p.createLocal c, [transit self c .send self m instance_ flush reliable isValidCrc])
    | none => (p, p.toHost self .send self m instance_ flush reliable isValidCrc)
  else if client = routingClient then
    let (copies, hasRemote) := p.sendLocalNotification self m instance_ flush reliable isValidCrc
    (p, copies ++
      if hasRemote then p.toHost self .notify self m instance_ flush reliable isValidCrc else [])
  else if p.localEndpoints client then
    (p, [transit self client .send self m instance_ flush reliable isValidCrc])
  else (p, p.toHost self .notifyOne client m instance_ flush reliable isValidCrc)

/-- The message of a SEND that is given to the application: it can be deserialized, and the policy
admits it. -/
def deliver (message : List UInt8) (instance_ : UInt16) (reliable isValidCrc : Bool) : List Delivery :=
  match (MessageImpl.deserialize cfg.maxSize (.setData message cfg.stray)).1 with
  | .message m =>
    if cfg.admits self m.header.type m.header.client m.header.service instance_ then
      [⟨self, message, instance_, reliable, isValidCrc⟩]
    else []
  | _ => []

/-- The part of `routing_manager_proxy::on_message` that is about messages. -/
def onMessage (bound routingHostId : UInt16) (data : List UInt8) : List Delivery :=
  match ProxyCommand.onMessage ⟨cfg.isSecurityEnabled, bound, routingHostId⟩ data with
  | .ok [.onMessage message instance_ reliable isValidCrc] =>
    deliver cfg self message instance_ reliable isValidCrc
  | _ => []

end MessageProxy

/-! ## The routing manager -/

namespace MessageRouter

variable {Address : Type} (cfg : RouterConfig) (h : MessageRouter Address)

/-- The stub, as it takes a command from a connection apart. -/
def stubConfig (bound : UInt16) : StubConfig where
  isSecurityEnabled := cfg.isSecurityEnabled
  isClientAllowed := fun c service instance_ => cfg.isClientAllowed c (service, instance_)
  isOfferedRemote := fun service instance_ => cfg.isOfferedRemote (service, instance_)
  boundClient := bound
  client := h.client

/-- The stub hands a message of a command on: the message, and the copies that the routing manager makes
of it. A message without all of its header is left out. -/
def handOn (data : List UInt8) (k : InstanceKey) (size : UInt32) (reliable isValidCrc : Bool) :
    MessageRouter Address × Option (HeadedData × List Copy) :=
  let message := (data.drop Command.payloadPos).take size.toNat
  if hheader : 16 ≤ message.length ∧ message.length < 2 ^ 32 then
    let m : HeadedData := ⟨⟨message, hheader.2⟩, hheader.1⟩
    ((h.onServiceMessage cfg k m reliable isValidCrc).1,
      some (m, (h.onServiceMessage cfg k m reliable isValidCrc).2))
  else (h, none)

/-- What the stub and the routing manager make of a SEND. -/
def onCommand (bound : UInt16) (data : List UInt8) :
    MessageRouter Address × Option (HeadedData × List Copy) :=
  match StubCommand.onMessage (h.stubConfig cfg bound) data with
  | .ok [.onMessage service instance_ size reliable isValidCrc] =>
    h.handOn cfg data (service, instance_) size reliable isValidCrc
  | _ => (h, none)

/-- The copies of a message: commands to other applications, and what the hosting one gets. -/
def outcome (m : HeadedData) (copies : List Copy) : List Transit × List Delivery :=
  (copies.filterMap fun
    | .sendLocal target d => some ⟨target, .send, d⟩
    | .host .. => none,
  copies.filterMap fun
    | .host _ instance_ reliable isValidCrc => some ⟨h.client, m.data, instance_, reliable, isValidCrc⟩
    | .sendLocal .. => none)

end MessageRouter

/-! ## The network -/

/-- The bytes of a message, its instance, and the flags that it is reliable and that its checksum is
valid. -/
structure Content where
  data : List UInt8
  instance_ : UInt16
  reliable : Bool
  isValidCrc : Bool
deriving DecidableEq

/-- What a command carries. -/
def Transit.content (t : Transit) : Content :=
  ⟨t.data.message, t.data.instance_, t.data.reliable, t.data.isValidCrc⟩

/-- What an application gets. -/
def Delivery.content (d : Delivery) : Content := ⟨d.data, d.instance_, d.reliable, d.isValidCrc⟩

/-- The routing manager, the applications by their clients, the commands on their way with what has
arrived, and all that was sent. -/
structure LocalNet (Address : Type) where
  host : MessageRouter Address
  apps : UInt16 → Option MessageProxy
  pool : Pool Transit Delivery
  sent : List Content

/-- What may happen: an application sends a message, which is given to its routing manager as bytes, a
command arrives or is lost, and the tables change. -/
inductive NetAction (Address : Type)
  | send (client : UInt16) (m : HeadedData) (instance_ : UInt16) (flush reliable : Bool)
  | arrive (i : ℕ)
  | lose (i : ℕ)
  | change (host : MessageRouter Address) (apps : UInt16 → Option MessageProxy)

namespace LocalNet

variable {Address : Type} (cfg : UInt16 → RouterConfig) (n : LocalNet Address)

/-- The routing manager has made copies of a message. -/
def handled (host : MessageRouter Address) (m : HeadedData) (copies : List Copy) : LocalNet Address :=
  { n with host := host, pool := n.pool.add (host.outcome m copies) }

/-- A command arrives at the routing manager. -/
def arriveAtHost (d : LocalData) : LocalNet Address :=
  match n.host.onCommand (cfg n.host.client) d.sender (d.command .send) with
  | (host, some (m, copies)) => n.handled host m copies
  | (host, none) => { n with host := host }

/-- A SEND arrives. Commands with notifications are not followed. -/
def arrive (t : Transit) : LocalNet Address :=
  if t.command ≠ .send then n
  else if t.target = routingClient ∨ t.target = n.host.client then n.arriveAtHost cfg t.data
  else
    match n.apps t.target with
    | some _ =>
      { n with
        pool := n.pool.add ([], MessageProxy.onMessage (cfg t.target) t.target t.data.sender
          n.host.client (t.data.command .send)) }
    | none => n

/-- The bytes of a message are given to the routing manager of an application, with a valid checksum. -/
def send (client : UInt16) (m : HeadedData) (instance_ : UInt16) (flush reliable : Bool) :
    LocalNet Address :=
  if client = n.host.client then
    n.handled n.host m (n.host.send (cfg client) client m instance_ flush reliable true)
  else
    match n.apps client with
    | some p =>
      { n with
        apps := Function.update n.apps client
          (some (p.send client client m instance_ flush reliable true).1)
        pool := n.pool.add ((p.send client client m instance_ flush reliable true).2, []) }
    | none => n

/-- A step of the network. The client of the routing manager stays the same. -/
def step : NetAction Address → LocalNet Address
  | .send client m instance_ flush reliable =>
    { n.send cfg client m instance_ flush reliable with
      sent := n.sent ++ [⟨m.data, instance_, reliable, true⟩] }
  | .arrive i =>
    match n.pool.onWay[i]? with
    | some t => arrive cfg { n with pool := n.pool.drop i } t
    | none => n
  | .lose i => { n with pool := n.pool.drop i }
  | .change host apps => { n with host := { host with client := n.host.client }, apps := apps }

end LocalNet

/-! ## One node -/

section Node

variable {Address : Type} {cfg : RouterConfig} {h : MessageRouter Address} {d : LocalData}

/-- The message of a command, with its header. -/
def LocalData.headedData (d : LocalData) : HeadedData := ⟨⟨d.message, d.sized⟩, d.headed⟩

/-- The stub makes a call for a SEND that the policy admits, and none for another one. -/
lemma stub_onMessage_send (cfg : StubConfig) (hfits : d.message.length + 12 < 2 ^ 32)
    (hbound : cfg.boundClient = d.sender) : StubCommand.onMessage cfg (d.command .send) =
      .ok (if cfg.isClientAllowed (if isRequest (d.message.getD 14 0) then d.clientFromHeader
        else cfg.client) d.service d.instance_ then [d.handedCall .send] else []) := by
  have hsize : 7 + d.completeSize .send < 2 ^ 32 := by
    change 7 + (d.message.length + 5) < _
    omega
  have hskip : ¬ (cfg.isSecurityEnabled && cfg.boundClient != d.sender) := by simp [hbound]
  by_cases hallowed : cfg.isClientAllowed (if isRequest (d.message.getD 14 0) then
      d.clientFromHeader else cfg.client) d.service d.instance_
  · rw [if_pos hallowed]
    exact LocalData.onMessage_command hsize ⟨hskip, fun _ => hallowed⟩
  · rw [if_neg hallowed, LocalData.command_eq hsize,
      StubCommand.onMessage_header cfg (LocalData.toNat_completeSize hsize).le, if_neg hskip]
    generalize hdata : Command.header DataCommand.send.toByte d.sender
      (UInt32.ofNat (d.completeSize .send)) ++ (d.message ++ d.trailer .send) = data
    obtain ⟨hlength, hservice, hclient, htype, hinstance, hreliable, hcrc⟩ :=
      LocalData.reads hdata.symm
    rw [LocalData.length_trailer] at hlength
    have hinstancePos : data.length - 2 - 1 - 1 - 1 = 7 + d.message.length := by rw [hlength]; rfl
    have hreliablePos : data.length - 1 - 1 = 7 + d.message.length + 3 := by rw [hlength]; rfl
    have hcrcPos : data.length - 1 = 7 + d.message.length + 4 := by rw [hlength]; rfl
    change StubCommand.send cfg data _ = _
    rw [StubCommand.send, hinstancePos, hreliablePos, hcrcPos, hservice, hclient, hinstance,
      hreliable, hcrc, htype]
    have hnot : ¬ (if isRequest (d.message.getD 14 0) then
        cfg.isClientAllowed d.clientFromHeader d.service d.instance_
        else cfg.isClientAllowed cfg.client d.service d.instance_) = true := by
      rwa [← apply_ite (fun client => cfg.isClientAllowed client d.service d.instance_)]
    exact if_neg hnot

/-- What is handed on of a SEND is its message. -/
lemma MessageRouter.handOn_send (hfits : d.message.length + 12 < 2 ^ 32) (k : InstanceKey) :
    h.handOn cfg (d.command .send) k (d.handedOn .send) d.reliable d.isValidCrc =
      ((h.onServiceMessage cfg k d.headedData d.reliable d.isValidCrc).1,
        some (d.headedData, (h.onServiceMessage cfg k d.headedData d.reliable d.isValidCrc).2)) := by
  have hsize : 7 + d.completeSize .send < 2 ^ 32 := by
    change 7 + (d.message.length + 5) < _
    omega
  have htake : ((d.command .send).drop Command.payloadPos).take (d.handedOn .send).toNat =
      d.message := by
    rw [LocalData.handedOn, UInt32.toNat_ofNat_of_lt' d.sized]
    exact LocalData.take_command hsize
  have hheader : 16 ≤ d.message.length ∧ d.message.length < 2 ^ 32 := ⟨d.headed, d.sized⟩
  simp only [handOn, htake]
  exact dif_pos hheader

/-- The routing manager handles the message of a SEND that the policy admits. -/
lemma MessageRouter.onCommand_send (hfits : d.message.length + 12 < 2 ^ 32) :
    h.onCommand cfg d.sender (d.command .send) =
      if cfg.admits h.client (d.message.getD 14 0) d.clientFromHeader d.service d.instance_ then
        ((h.onServiceMessage cfg (d.service, d.instance_) d.headedData d.reliable d.isValidCrc).1,
          some (d.headedData, (h.onServiceMessage cfg (d.service, d.instance_) d.headedData d.reliable
            d.isValidCrc).2))
      else (h, none) := by
  have hcalls : StubCommand.onMessage (h.stubConfig cfg d.sender) (d.command .send) =
      .ok (if cfg.admits h.client (d.message.getD 14 0) d.clientFromHeader d.service d.instance_ then
        [d.handedCall .send] else []) := stub_onMessage_send _ hfits rfl
  rw [onCommand, hcalls]
  by_cases hadmits : cfg.admits h.client (d.message.getD 14 0) d.clientFromHeader d.service d.instance_
  · rw [if_pos hadmits, if_pos hadmits]
    exact handOn_send hfits _
  · rw [if_neg hadmits, if_neg hadmits]

/-- A proxy gives the message of a SEND to its application if it can. -/
lemma MessageProxy.onMessage_send {self routingHostId : UInt16}
    (hfits : d.message.length + 12 < 2 ^ 32) :
    onMessage cfg self d.sender routingHostId (d.command .send) =
      deliver cfg self d.message d.instance_ d.reliable d.isValidCrc := by
  have hsize : 7 + d.completeSize .send < 2 ^ 32 := by
    change 7 + (d.message.length + 5) < _
    omega
  have hpasses : d.ProxyPasses ⟨cfg.isSecurityEnabled, d.sender, routingHostId⟩ := by
    simp [LocalData.ProxyPasses]
  rw [onMessage, LocalData.proxy_onMessage_command hsize hpasses]

/-- What an application gets is the message, if it gets one. -/
lemma MessageProxy.deliver_eq {self instance_ : UInt16} {message : List UInt8}
    {reliable isValidCrc : Bool} :
    deliver cfg self message instance_ reliable isValidCrc = [] ∨
      deliver cfg self message instance_ reliable isValidCrc =
        [⟨self, message, instance_, reliable, isValidCrc⟩] := by
  rw [deliver]
  split
  · split_ifs
    · exact .inr rfl
    · exact .inl rfl
  · exact .inl rfl

/-! ### Where a message goes -/

/-- The client that a request or a response is for, as the tables of the routing manager say. -/
def MessageRouter.destination (h : MessageRouter Address) (m : ReceivedData) (instance_ : UInt16) :
    UInt16 :=
  if isRequest m.type then h.findLocalClient (m.service, instance_) else m.client

variable {m : HeadedData} {instance_ : UInt16} {flush reliable isValidCrc : Bool}

/-- The routing manager sends a message to its destination. -/
lemma MessageRouter.send_eq (hnotify : ¬ isNotification m.type) (client : UInt16) :
    h.send cfg client m instance_ flush reliable isValidCrc =
      if h.localEndpoints (h.destination m.toReceivedData instance_) then
        h.sendLocal (h.destination m.toReceivedData instance_) h.client m instance_ flush reliable
          isValidCrc
      else if h.destination m.toReceivedData instance_ = h.client then
        deliverMessage cfg m instance_ reliable isValidCrc
      else [] := by
  have hself : ¬ (isNotification m.type ∧ client ≠ 0 ∧ client = h.client) := fun hself =>
    hnotify hself.1
  have htarget : (if isRequest m.type then some (h.findLocalClient (m.service, instance_))
      else if ¬ isNotification m.type then some m.client
      else if client ≠ 0 then some client else none) =
        some (h.destination m.toReceivedData instance_) := by
    rw [destination]
    split_ifs <;> rfl
  rw [send, if_neg hself]
  simp only [htarget]
  by_cases hendpoint : h.localEndpoints (h.destination m.toReceivedData instance_)
  · rw [Option.filter_some_pos hendpoint, if_pos hendpoint]
  · rw [Option.filter_some_neg (Bool.not_eq_true _ ▸ hendpoint), if_neg hendpoint]
    have hhost : (m.client = h.client ∧ ¬ isRequest m.type) ∨
        (h.findLocalClient (m.service, instance_) = h.client ∧ isRequest m.type) ↔
          h.destination m.toReceivedData instance_ = h.client := by
      rw [destination]
      by_cases hrequest : isRequest m.type <;> simp [hrequest]
    have hnetwork (p : Prop) : ¬ (isNotification m.type ∧ p) := fun hnetwork => hnotify hnetwork.1
    simp only [sendWithoutTarget, hhost]
    rw [if_neg (hnetwork _)]

/-- So does it with a message that it has received. -/
lemma MessageRouter.onServiceMessage_eq (hnotify : ¬ isNotification m.type) :
    h.onServiceMessage cfg (m.service, instance_) m reliable isValidCrc =
      (h, if h.destination m.toReceivedData instance_ = h.client then
          deliverMessage cfg m instance_ reliable isValidCrc
        else if h.localEndpoints (h.destination m.toReceivedData instance_) then
          h.sendLocal (h.destination m.toReceivedData instance_) h.client m instance_ true reliable
            isValidCrc
        else []) := by
  have hnone : ¬ (h.destination m.toReceivedData instance_ = routingClient ∧ isNotification m.type) :=
    fun hnone => hnotify hnone.2
  change (if h.destination m.toReceivedData instance_ = routingClient ∧ isNotification m.type then _
    else if h.destination m.toReceivedData instance_ = h.client then
      (h, deliverMessage cfg m instance_ reliable isValidCrc)
    else (h, h.send cfg (h.destination m.toReceivedData instance_) m instance_ true reliable
      isValidCrc)) = _
  rw [if_neg hnone, send_eq hnotify]
  by_cases hhost : h.destination m.toReceivedData instance_ = h.client
  · rw [if_pos hhost, if_pos hhost]
  · rw [if_neg hhost, if_neg hhost, if_neg hhost]

/-! ### What a node makes of a message -/

/-- Which clients offer a service instance, as the tables may tell. -/
abbrev Providers : Type := InstanceKey → UInt16 → Prop

/-- A message is for a client: one that offers the service of a request, or the one that is named in a
response. -/
def Content.IsFor (x : Content) (providers : Providers) (c : UInt16) : Prop :=
  if isRequest (x.data.getD 14 0) then
    providers (bytesToWord (x.data.getD 0 0) (x.data.getD 1 0), x.instance_) c
  else c = bytesToWord (x.data.getD 8 0) (x.data.getD 9 0)

/-- A SEND that is no notification and fits into a command, on its way to the routing manager or to a
client that it is for. -/
structure Transit.Sound (t : Transit) (providers : Providers) (host : UInt16) : Prop where
  isSend : t.command = .send
  fits : t.data.message.length + 12 < 2 ^ 32
  isNoNotification : ¬ isNotification (t.data.message.getD 14 0)
  target : t.target = routingClient ∨ t.target = host ∨ t.content.IsFor providers t.target

/-- What an application gets is for it. -/
structure Delivery.Sound (d : Delivery) (providers : Providers) : Prop where
  client_ne : d.client ≠ routingClient
  isFor : d.content.IsFor providers d.client

/-- The contents of an outcome. -/
def contentsOf (o : List Transit × List Delivery) : Multiset Content :=
  (⟨o.1, o.2⟩ : Pool Transit Delivery).contents Transit.content Delivery.content

/-- A node makes at most one thing of a message, which has its content and is sound. -/
def MakesOne (providers : Providers) (host : UInt16) (x : Content)
    (o : List Transit × List Delivery) : Prop :=
  o = ([], []) ∨ (∃ t : Transit, o = ([t], []) ∧ t.content = x ∧ t.Sound providers host) ∨
    ∃ d : Delivery, o = ([], [d]) ∧ d.content = x ∧ d.Sound providers

section MakesOne

variable {providers : Providers} {host : UInt16} {x : Content} {o : List Transit × List Delivery}

/-- One message at most is made of one. -/
lemma MakesOne.contentsOf_le (ho : MakesOne providers host x o) : contentsOf o ≤ {x} := by
  rcases ho with rfl | ⟨t, rfl, rfl, -⟩ | ⟨d, rfl, rfl, -⟩
  · exact Multiset.zero_le _
  · exact le_rfl
  · exact le_rfl

/-- What is made of a message is sound. -/
lemma MakesOne.all (ho : MakesOne providers host x o) :
    (⟨o.1, o.2⟩ : Pool Transit Delivery).All (·.Sound providers host) (·.Sound providers) := by
  rcases ho with rfl | ⟨t, rfl, -, ht⟩ | ⟨d, rfl, -, hd⟩
  · exact ⟨fun _ h => absurd h List.not_mem_nil, fun _ h => absurd h List.not_mem_nil⟩
  · exact ⟨List.forall_mem_singleton.mpr ht, fun _ h => absurd h List.not_mem_nil⟩
  · exact ⟨fun _ h => absurd h List.not_mem_nil, List.forall_mem_singleton.mpr hd⟩

end MakesOne

/-- A message that is to be followed: no notification, and it fits into a command. -/
structure Followed (m : HeadedData) : Prop where
  isNoNotification : ¬ isNotification m.type
  fits : m.data.length + 12 < 2 ^ 32

variable {providers : Providers}

/-- The tables of the routing manager tell of these providers only. -/
def MessageRouter.Within (h : MessageRouter Address) (providers : Providers) : Prop :=
  ∀ k c, h.localServices k = some c → providers k c

/-- So do those of a proxy. -/
def MessageProxy.Within (p : MessageProxy) (providers : Providers) : Prop :=
  ∀ k c, p.localServices k = some c → providers k c

/-- A message is for its destination, but for the routing manager if no one offers the service. -/
lemma MessageRouter.isFor_destination (hwithin : h.Within providers)
    (hne : h.destination m.toReceivedData instance_ ≠ routingClient) (reliable isValidCrc : Bool) :
    (⟨m.data, instance_, reliable, isValidCrc⟩ : Content).IsFor providers
      (h.destination m.toReceivedData instance_) := by
  change if isRequest m.type then
    providers (m.service, instance_) (h.destination m.toReceivedData instance_)
    else h.destination m.toReceivedData instance_ = m.client
  split_ifs with hrequest
  · have hdestination : h.destination m.toReceivedData instance_ =
        h.findLocalClient (m.service, instance_) := if_pos hrequest
    rw [hdestination, findLocalClient] at hne ⊢
    cases hservice : h.localServices (m.service, instance_) with
    | none => rw [hservice] at hne; exact absurd rfl hne
    | some c => exact hwithin _ _ hservice
  · exact if_neg hrequest

/-- What the hosting application gets. -/
lemma MessageRouter.makesOne_deliverMessage (hwithin : h.Within providers)
    (hhost : h.client ≠ routingClient)
    (hdestination : h.destination m.toReceivedData instance_ = h.client) :
    MakesOne providers h.client ⟨m.data, instance_, reliable, isValidCrc⟩
      (h.outcome m (deliverMessage cfg m instance_ reliable isValidCrc)) := by
  have hfor := isFor_destination hwithin (hdestination ▸ hhost) reliable isValidCrc
  rw [hdestination] at hfor
  rw [deliverMessage]
  split
  · exact .inr (.inr ⟨⟨h.client, m.data, instance_, reliable, isValidCrc⟩, rfl, rfl, hhost, hfor⟩)
  · exact .inl rfl

/-- What is sent to another application. -/
lemma MessageRouter.makesOne_sendLocal (hwithin : h.Within providers) (hm : Followed m) :
    MakesOne providers h.client ⟨m.data, instance_, reliable, isValidCrc⟩
      (h.outcome m (h.sendLocal (h.destination m.toReceivedData instance_) h.client m instance_ flush
        reliable isValidCrc)) := by
  rw [sendLocal]
  split_ifs
  · refine .inr (.inl ⟨_, rfl, rfl, rfl, hm.fits, hm.isNoNotification, ?_⟩)
    by_cases hne : h.destination m.toReceivedData instance_ = routingClient
    · exact .inl hne
    · exact .inr (.inr (isFor_destination hwithin hne reliable isValidCrc))
  · exact .inl rfl

/-- The routing manager sends at most one message for the one that it is given. -/
lemma MessageRouter.makesOne_send (hwithin : h.Within providers) (hhost : h.client ≠ routingClient)
    (hm : Followed m) (client : UInt16) :
    MakesOne providers h.client ⟨m.data, instance_, reliable, isValidCrc⟩
      (h.outcome m (h.send cfg client m instance_ flush reliable isValidCrc)) := by
  rw [send_eq hm.isNoNotification]
  split_ifs with hendpoint hdestination
  · exact makesOne_sendLocal hwithin hm
  · exact makesOne_deliverMessage hwithin hhost hdestination
  · exact .inl rfl

/-- So does it for a message that it has received. -/
lemma MessageRouter.makesOne_onServiceMessage (hwithin : h.Within providers)
    (hhost : h.client ≠ routingClient) (hm : Followed m) :
    MakesOne providers h.client ⟨m.data, instance_, reliable, isValidCrc⟩ (h.outcome m
      (h.onServiceMessage cfg (m.service, instance_) m reliable isValidCrc).2) := by
  rw [onServiceMessage_eq hm.isNoNotification]
  dsimp only
  split_ifs with hdestination hendpoint
  · exact makesOne_deliverMessage hwithin hhost hdestination
  · exact makesOne_sendLocal hwithin hm
  · exact .inl rfl

variable {p : MessageProxy} {self : UInt16}

/-- A proxy that knows the client that a message is for. -/
lemma MessageProxy.isFor_findKnown (hwithin : p.Within providers) {c : UInt16}
    (hknown : p.findKnown (p.destination m.toReceivedData instance_) = some c)
    (reliable isValidCrc : Bool) :
    (⟨m.data, instance_, reliable, isValidCrc⟩ : Content).IsFor providers c := by
  rw [findKnown] at hknown
  split_ifs at hknown with hne
  obtain rfl := Option.some.inj hknown
  change if isRequest m.type then
    providers (m.service, instance_) (p.destination m.toReceivedData instance_)
    else p.destination m.toReceivedData instance_ = m.client
  split_ifs with hrequest
  · have hdestination : p.destination m.toReceivedData instance_ =
        (p.localServices (m.service, instance_)).getD routingClient := if_pos hrequest
    rw [hdestination] at hne ⊢
    cases hservice : p.localServices (m.service, instance_) with
    | none => rw [hservice] at hne; exact absurd rfl hne.1
    | some c => exact hwithin _ _ hservice
  · exact if_neg hrequest

/-- A proxy sends one command at most for a message. -/
lemma MessageProxy.makesOne_send (hwithin : p.Within providers) (hm : Followed m)
    (client host : UInt16) :
    MakesOne providers host ⟨m.data, instance_, reliable, isValidCrc⟩
      ((p.send self client m instance_ flush reliable isValidCrc).2, []) := by
  rw [send, if_pos hm.isNoNotification]
  by_cases hregistered : p.isRegistered
  · rw [if_neg (not_not.mpr hregistered)]
    split
    · rename_i c hknown
      exact .inr (.inl ⟨_, rfl, rfl, rfl, hm.fits, hm.isNoNotification,
        .inr (.inr (isFor_findKnown hwithin hknown reliable isValidCrc))⟩)
    · rw [toHost]
      split_ifs
      · exact .inr (.inl ⟨_, rfl, rfl, rfl, hm.fits, hm.isNoNotification, .inl rfl⟩)
      · exact .inl rfl
  · rw [if_pos hregistered]
    exact .inl rfl

/-- A proxy has the same tables, but for its endpoints. -/
structure MessageProxy.SameTables (p p' : MessageProxy) : Prop where
  isRegistered : p'.isRegistered = p.isRegistered
  hasSender : p'.hasSender = p.hasSender
  localServices : p'.localServices = p.localServices

/-- A proxy has its own tables. -/
lemma MessageProxy.SameTables.refl (p : MessageProxy) : p.SameTables p := ⟨rfl, rfl, rfl⟩

/-- A proxy that has sent a message has the same tables. -/
lemma MessageProxy.sameTables_send (hm : Followed m) (client : UInt16) :
    p.SameTables (p.send self client m instance_ flush reliable isValidCrc).1 := by
  rw [send, if_pos hm.isNoNotification]
  by_cases hregistered : p.isRegistered
  · rw [if_neg (not_not.mpr hregistered)]
    split <;> exact ⟨rfl, rfl, rfl⟩
  · rw [if_pos hregistered]
    exact ⟨rfl, rfl, rfl⟩

end Node

/-! ## Runs -/

/-- The applications send messages that are to be followed, and the tables keep to the offers. -/
def NetAction.Keeps {Address : Type} (providers : Providers) : NetAction Address → Prop
  | .send _ m _ _ _ => Followed m
  | .arrive _ | .lose _ => True
  | .change host apps => host.Within providers ∧ ∀ c p, apps c = some p → p.Within providers

namespace LocalNet

variable {Address : Type} {cfg : UInt16 → RouterConfig} {n : LocalNet Address} {providers : Providers}
  {host : UInt16}

/-- The tables tell of these offers only, and the routing manager has its client. -/
structure Within (n : LocalNet Address) (providers : Providers) (client : UInt16) : Prop where
  client_eq : n.host.client = client
  client_ne : client ≠ routingClient
  host : n.host.Within providers
  apps : ∀ c p, n.apps c = some p → p.Within providers

/-- What a node makes of a SEND that arrives. -/
def made (cfg : UInt16 → RouterConfig) (n : LocalNet Address) (t : Transit) :
    List Transit × List Delivery :=
  if t.target = routingClient ∨ t.target = n.host.client then
    if (cfg n.host.client).admits n.host.client (t.data.message.getD 14 0) t.data.clientFromHeader
        t.data.service t.data.instance_ then
      n.host.outcome t.data.headedData (n.host.onServiceMessage (cfg n.host.client)
        (t.data.service, t.data.instance_) t.data.headedData t.data.reliable t.data.isValidCrc).2
    else ([], [])
  else
    match n.apps t.target with
    | some _ => ([], MessageProxy.deliver (cfg t.target) t.target t.data.message t.data.instance_
        t.data.reliable t.data.isValidCrc)
    | none => ([], [])

/-- The node changes nothing else. -/
lemma arrive_eq {t : Transit} (ht : t.Sound providers host) :
    arrive cfg n t = { n with pool := n.pool.add (made cfg n t) } := by
  have hnothing : n = { n with pool := n.pool.add ([], []) } := by simp [Pool.add]
  have hm : Followed t.data.headedData := ⟨ht.isNoNotification, ht.fits⟩
  have hsame : (n.host.onServiceMessage (cfg n.host.client) (t.data.headedData.service,
      t.data.instance_) t.data.headedData t.data.reliable t.data.isValidCrc).1 = n.host :=
    congrArg Prod.fst (MessageRouter.onServiceMessage_eq hm.isNoNotification)
  rw [arrive, if_neg (not_not.mpr ht.isSend), made]
  by_cases htarget : t.target = routingClient ∨ t.target = n.host.client
  · rw [if_pos htarget, if_pos htarget, arriveAtHost, MessageRouter.onCommand_send ht.fits]
    by_cases hadmits : (cfg n.host.client).admits n.host.client (t.data.message.getD 14 0)
        t.data.clientFromHeader t.data.service t.data.instance_
    · rw [if_pos hadmits, if_pos hadmits]
      change n.handled (n.host.onServiceMessage (cfg n.host.client) (t.data.headedData.service,
        t.data.instance_) t.data.headedData t.data.reliable t.data.isValidCrc).1 _ _ = _
      rw [handled, hsame]
    · rw [if_neg hadmits, if_neg hadmits]
      exact hnothing
  · rw [if_neg htarget, if_neg htarget]
    cases happ : n.apps t.target with
    | none => exact hnothing
    | some p =>
      dsimp only
      rw [MessageProxy.onMessage_send ht.fits]

/-- What becomes of a SEND that arrives. -/
lemma makesOne_made (hn : n.Within providers host) {t : Transit} (ht : t.Sound providers host) :
    MakesOne providers host t.content (made cfg n t) := by
  obtain ⟨rfl, hne, hwithin, -⟩ := hn
  rw [made]
  by_cases htarget : t.target = routingClient ∨ t.target = n.host.client
  · rw [if_pos htarget]
    split_ifs
    · exact @MessageRouter.makesOne_onServiceMessage _ (cfg n.host.client) n.host t.data.headedData
        t.data.instance_ t.data.reliable t.data.isValidCrc _ hwithin hne
        ⟨ht.isNoNotification, ht.fits⟩
    · exact .inl rfl
  · rw [if_neg htarget]
    cases happ : n.apps t.target with
    | none => exact .inl rfl
    | some p =>
      have hfor : t.content.IsFor providers t.target := by
        have htarget' := ht.target
        tauto
      rcases @MessageProxy.deliver_eq (cfg t.target) t.target t.data.instance_ t.data.message
        t.data.reliable t.data.isValidCrc with hnone | hone
      · dsimp only
        rw [hnone]
        exact .inl rfl
      · dsimp only
        rw [hone]
        exact .inr (.inr ⟨_, rfl, rfl, (not_or.mp htarget).1, hfor⟩)

/-- What is made of a message that an application sends. -/
def sentBy (cfg : UInt16 → RouterConfig) (n : LocalNet Address) (client : UInt16) (m : HeadedData)
    (instance_ : UInt16) (flush reliable : Bool) : List Transit × List Delivery :=
  if client = n.host.client then
    n.host.outcome m (n.host.send (cfg client) client m instance_ flush reliable true)
  else
    match n.apps client with
    | some p => ((p.send client client m instance_ flush reliable true).2, [])
    | none => ([], [])

variable {m : HeadedData} {client instance_ : UInt16} {flush reliable : Bool}

/-- The tables stay the same. -/
lemma send_eq (hm : Followed m) : ∃ apps, n.send cfg client m instance_ flush reliable =
      { n with
        apps := apps
        pool := n.pool.add (sentBy cfg n client m instance_ flush reliable) } ∧
    ∀ c, Option.Rel MessageProxy.SameTables (n.apps c) (apps c) := by
  have hrefl (c : UInt16) : Option.Rel MessageProxy.SameTables (n.apps c) (n.apps c) := by
    cases n.apps c with
    | none => exact .none
    | some p => exact .some (.refl p)
  rw [send, sentBy]
  split_ifs with hhost
  · exact ⟨n.apps, rfl, hrefl⟩
  · cases happ : n.apps client with
    | none => exact ⟨n.apps, by simp [Pool.add], hrefl⟩
    | some p =>
      refine ⟨_, rfl, fun c => ?_⟩
      by_cases hc : c = client
      · subst hc
        rw [Function.update_self, happ]
        exact .some (MessageProxy.sameTables_send hm c)
      · rw [Function.update_of_ne hc]
        exact hrefl c

/-- What becomes of a message that is sent. -/
lemma makesOne_sentBy (hn : n.Within providers host) (hm : Followed m) :
    MakesOne providers host ⟨m.data, instance_, reliable, true⟩
      (sentBy cfg n client m instance_ flush reliable) := by
  obtain ⟨rfl, hne, hwithin, happs⟩ := hn
  rw [sentBy]
  split_ifs
  · exact MessageRouter.makesOne_send hwithin hne hm client
  · cases happ : n.apps client with
    | none => exact .inl rfl
    | some p => exact MessageProxy.makesOne_send (happs client p happ) hm client n.host.client

/-- The invariant of the network: nothing is there more often than it was sent, and everything is on a
way of its own. -/
structure Safe (n : LocalNet Address) (providers : Providers) (client : UInt16) : Prop
    extends n.Within providers client where
  sound : n.pool.All (·.Sound providers client) (·.Sound providers)
  contents : n.pool.contents Transit.content Delivery.content ≤ ↑n.sent

/-- Every step keeps the invariant. -/
lemma Safe.step (hn : n.Safe providers host) {a : NetAction Address} (ha : a.Keeps providers) :
    (step cfg n a).Safe providers host := by
  cases a with
  | send client m instance_ flush reliable =>
    obtain ⟨apps, hsend, hsame⟩ := @send_eq _ cfg n m client instance_ flush reliable ha
    have hone := @makesOne_sentBy _ cfg _ _ _ m client instance_ flush reliable hn.toWithin ha
    rw [LocalNet.step, hsend]
    refine ⟨⟨hn.client_eq, hn.client_ne, hn.host, fun c p' hp' => ?_⟩, hn.sound.add hone.all, ?_⟩
    · have hrel := hsame c
      dsimp only at hp'
      rw [hp'] at hrel
      cases happ : n.apps c with
      | none => rw [happ] at hrel; cases hrel
      | some p =>
        rw [happ] at hrel
        cases hrel with
        | some htables =>
          intro k c' hservice
          rw [htables.localServices] at hservice
          exact hn.apps c p happ k c' hservice
    · rw [Pool.contents_add, ← Multiset.coe_add]
      exact add_le_add hn.contents hone.contentsOf_le
  | arrive i =>
    rw [LocalNet.step]
    cases hi : n.pool.onWay[i]? with
    | none => exact hn
    | some t =>
      have ht : t.Sound providers host := hn.sound.1 t (List.mem_of_getElem? hi)
      have hwithin : Within { n with pool := n.pool.drop i } providers host :=
        ⟨hn.client_eq, hn.client_ne, hn.host, hn.apps⟩
      have hone := @makesOne_made _ cfg _ _ _ hwithin _ ht
      dsimp only
      rw [arrive_eq ht]
      refine ⟨⟨hn.client_eq, hn.client_ne, hn.host, hn.apps⟩, (hn.sound.drop i).add hone.all, ?_⟩
      exact (Pool.contents_relay_le hi hone.contentsOf_le).trans hn.contents
  | lose i =>
    exact ⟨⟨hn.client_eq, hn.client_ne, hn.host, hn.apps⟩, hn.sound.drop i,
      (Pool.contents_drop_le i).trans hn.contents⟩
  | change host' apps =>
    exact ⟨⟨hn.client_eq, hn.client_ne, ha.1, ha.2⟩, hn.sound, hn.contents⟩

/-- A network in which nothing was sent yet. -/
def start (host : MessageRouter Address) (apps : UInt16 → Option MessageProxy) : LocalNet Address :=
  ⟨host, apps, Pool.empty, []⟩

/-- **Messages are not duplicated, changed or misdirected**: in every run, in which commands arrive in
any order or are lost and the tables change at any time, the messages that the applications have got and
those on their way are some of those that were sent, none more often than it was sent; a response was
delivered to the client in it only, and a request to a client only that some table told to offer the
service.

**Proof sketch.** A node makes at most one command or delivery of a message, with the same bytes,
instance and flags. A command goes to the routing manager, or to a client for which the table of the
node says that the message is for it. -/
theorem forwarded_run (cfg : UInt16 → RouterConfig) (host : MessageRouter Address)
    (apps : UInt16 → Option MessageProxy) (providers : Providers) (hhost : host.client ≠ routingClient)
    (hwithin : host.Within providers) (happs : ∀ c p, apps c = some p → p.Within providers)
    (as : List (NetAction Address)) (has : ∀ a ∈ as, a.Keeps providers) :
    let n := Runs.run (step cfg) (start host apps) as
    n.pool.contents Transit.content Delivery.content ≤ ↑n.sent ∧
      ∀ d ∈ n.pool.arrived, d.content.IsFor providers d.client := by
  have hstart : (start host apps).Safe providers host.client :=
    ⟨⟨rfl, hhost, hwithin, happs⟩, Pool.all_empty, le_rfl⟩
  have hrun : (Runs.run (step cfg) (start host apps) as).Safe providers host.client :=
    @Runs.inv_run _ _ (step cfg) (fun n => n.Safe providers host.client) _
      (fun hn ha => hn.step ha) _ _ hstart has
  exact ⟨hrun.contents, fun d hd => (hrun.sound.2 d hd).isFor⟩

/-- The service is offered by the client 0x102, which only the routing manager knows. -/
def exampleHost : MessageRouter UInt32 where
  client := 0x100
  localServices := fun k => if k = (0x1111, 1) then some 0x102 else none
  localEndpoints := fun c => c = 0x101 ∨ c = 0x102
  clients := SelectiveClients.exampleClients
  events := fun _ _ => none
  isShadow := fun _ _ => false

/-- The client 0x102 knows the client 0x101, and not the other way round. -/
def exampleApps (c : UInt16) : Option MessageProxy :=
  if c = 0x101 ∨ c = 0x102 then
    some ⟨true, true, fun _ => none, fun c' => c = 0x102 ∧ c' = 0x101, fun _ => false, fun _ _ => none,
      fun _ _ => false⟩
  else none

/-- All messages are admitted and can be read. -/
def exampleConfig : RouterConfig where
  isE2eEnabled := false
  e2e := []
  isSecurityEnabled := true
  isOfferedRemote := fun _ => false
  isClientAllowed := fun _ _ => true
  maxSize := 2 ^ 32
  stray := fun _ => 0

/-- A request of the client 0x101, or the response to it. -/
def exampleMessage (type : UInt8) : HeadedData where
  data := [0x11, 0x11, 0, 1, 0, 0, 0, 8, 0x01, 0x01, 0, 1, 1, 1, type, 0]
  sized := Nat.lt_of_lt_of_le (Nat.lt_succ_self 16) (by decide)
  headed := Nat.le_refl 16

/-- The request goes by way of the routing manager, and the response directly. -/
def exampleRun : List (NetAction UInt32) :=
  [.send 0x101 (exampleMessage 0x00) 1 true true, .arrive 0, .arrive 0,
    .send 0x102 (exampleMessage 0x80) 1 true true, .arrive 0]

/-- The offer that the routing manager knows. -/
def exampleProviders : Providers := fun k c => k = (0x1111, 1) ∧ c = 0x102

/-- The host of the example knows no other providers. -/
lemma exampleHost_within : exampleHost.Within exampleProviders := by
  intro k c hservice
  rw [exampleHost] at hservice
  dsimp only at hservice
  split_ifs at hservice with hk
  exact ⟨hk, (Option.some.inj hservice).symm⟩

/-- The proxies of the example know no other providers. -/
lemma exampleApps_within (c : UInt16) (p : MessageProxy) (happ : exampleApps c = some p) :
    p.Within exampleProviders := by
  intro k c' hservice
  rw [exampleApps] at happ
  split_ifs at happ
  obtain rfl := Option.some.inj happ
  exact absurd hservice (by simp)

/-- The events of the example keep the providers. -/
lemma exampleRun_keeps : ∀ a ∈ exampleRun, a.Keeps exampleProviders := by
  refine List.forall_mem_cons.mpr ⟨⟨by decide, by decide⟩, ?_⟩
  refine List.forall_mem_cons.mpr ⟨trivial, List.forall_mem_cons.mpr ⟨trivial, ?_⟩⟩
  refine List.forall_mem_cons.mpr ⟨⟨by decide, by decide⟩, ?_⟩
  exact List.forall_mem_singleton.mpr trivial

/-- Both arrive where they should. -/
theorem forwarded_run_example :
    let n := Runs.run (step fun _ => exampleConfig) (start exampleHost exampleApps) exampleRun
    n.pool.arrived.map Delivery.client = [0x102, 0x101] ∧
      n.pool.contents Transit.content Delivery.content ≤ ↑n.sent ∧
      ∀ d ∈ n.pool.arrived, d.content.IsFor exampleProviders d.client :=
  ⟨by decide, forwarded_run (fun _ => exampleConfig) exampleHost exampleApps exampleProviders
    (by decide) exampleHost_within exampleApps_within exampleRun exampleRun_keeps⟩

end LocalNet

end Vsomeip
