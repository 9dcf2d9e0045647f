import Vsomeip.Endpoints.LocalFraming
import Vsomeip.Routing.CommandCodec
import Vsomeip.Routing.DebouncedRequests
import Vsomeip.Routing.EventgroupInfo

set_option relaxedAutoImplicit false
set_option autoImplicit false

/-!
# Commands over a local connection

An application and the routing manager, and two applications, send commands to each other over local
sockets. A command is built by one side, put between tags, transmitted as a part of a stream that is cut
anywhere, and taken apart by the other side. REGISTER_EVENT and the commands with messages are left out:
they are not read back as they were built in all cases.

## Main definitions

* `Vsomeip.ApplicationCommand`, `Vsomeip.ApplicationCommand.command` — the commands of
  `routing_manager_proxy`, and their bytes.
* `Vsomeip.HostCommand`, `Vsomeip.HostCommand.command` — those of `routing_manager_stub`.
* `Vsomeip.ApplicationCommand.stubCalls`, `Vsomeip.ApplicationCommand.proxyCalls`,
  `Vsomeip.HostCommand.proxyCalls` — what they ask the other side to do.
* `Vsomeip.Plain` — a command in which no end tag can be found too early.

## Main results

* `Vsomeip.received_run` — plain commands arrive as they are, however the stream is cut.
* `Vsomeip.calls_run` — the other side does what it is asked to do, in order.
-/

namespace Vsomeip

open Command Checked

/-! ## The commands -/

/-- The bytes of a request of `send_request_services`. -/
def ServiceData.entry (s : ServiceData) : List UInt8 :=
  ofWord s.key.1 ++ (ofWord s.key.2 ++ (s.version.major :: (ofLong s.version.minor ++
    [ofBool s.useExclusiveProxy])))

/-- The commands that `routing_manager_proxy` sends to the routing manager, and some of them to other
applications. -/
inductive ApplicationCommand
  | registerApplication
  | deregisterApplication
  | registeredAck
  | pong
  | offerService (s : ServiceInstance)
  | stopOfferService (s : ServiceInstance)
  | requestServices (requests : List ServiceData)
  | releaseService (service instance_ : UInt16)
  | unregisterEvent (service instance_ event : UInt16) (isProvided : Bool)
  | subscribe (service instance_ eventgroup : UInt16) (major : UInt8) (event : UInt16)
      (subscriptionType : UInt8)
  | unsubscribe (service instance_ eventgroup event : UInt16)
  | subscribeAck (service instance_ eventgroup subscriber event subscriptionId : UInt16)
  | subscribeNack (service instance_ eventgroup subscriber event subscriptionId : UInt16)
  | unsubscribeAck (service instance_ eventgroup subscriptionId : UInt16)
  | identifyResponse (service instance_ : UInt16) (reliable : Bool)
  | getOfferedServicesInfo (offerType : UInt8)

/-- The commands that `routing_manager_stub` sends to applications, each on behalf of a client. -/
inductive HostCommand
  | ping
  | subscribe (service instance_ eventgroup : UInt16) (major : UInt8) (event subscriptionId : UInt16)
  | unsubscribe (service instance_ eventgroup event subscriptionId : UInt16)
  | subscribeAck (service instance_ eventgroup subscriber event : UInt16)
  | subscribeNack (service instance_ eventgroup subscriber event : UInt16)
  | identifyRequest (service instance_ : UInt16) (major : UInt8) (reliable : Bool)

/-- A command with the size of its payload in the header. -/
def commandOf (type : UInt8) (client : UInt16) (payload : List UInt8) : List UInt8 :=
  header type client (UInt32.ofNat payload.length) ++ payload

/-- The payload of an offer or its end. -/
def ServiceInstance.payload (s : ServiceInstance) : List UInt8 :=
  ofWord s.service ++ (ofWord s.instance_ ++ (s.major :: ofLong s.minor))

/-- The payload of an answer to a SUBSCRIBE. -/
def answerPayload (service instance_ eventgroup subscriber event subscriptionId : UInt16) :
    List UInt8 :=
  ofWord service ++ (ofWord instance_ ++ (ofWord eventgroup ++ (ofWord subscriber ++ (ofWord event ++
    ofWord subscriptionId))))

/-- The payload of a SUBSCRIBE. -/
def subscribePayload (service instance_ eventgroup : UInt16) (major : UInt8) (event : UInt16)
    (subscriptionType : UInt8) (subscriptionId : UInt16) : List UInt8 :=
  ofWord service ++ (ofWord instance_ ++ (ofWord eventgroup ++ (major :: (ofWord event ++
    (subscriptionType :: ofWord subscriptionId)))))

/-- The payload of an UNSUBSCRIBE. -/
def unsubscribePayload (service instance_ eventgroup event subscriptionId : UInt16) : List UInt8 :=
  ofWord service ++ (ofWord instance_ ++ (ofWord eventgroup ++ (ofWord event ++ ofWord subscriptionId)))

/-- What the functions of `routing_manager_proxy` send: `register_application`,
`deregister_application`, `send_registered_ack`, `send_pong`, `send_offer_service`,
`stop_offer_service`, `send_request_services`, `send_release_service`, `unregister_event`,
`send_subscribe`, `unsubscribe`, `send_subscribe_ack`, `send_subscribe_nack`, `send_unsubscribe_ack`,
`on_identify_response` and `send_get_offered_services_info`. Nothing is sent without a request, or if
their size needs more than 32 bits. -/
def ApplicationCommand.command (client : UInt16) : ApplicationCommand → Option (List UInt8)
  | registerApplication => some (commandOf 0x00 client [])
  | deregisterApplication => some (commandOf 0x01 client [0, 0])
  | registeredAck => some (commandOf 0x04 client [])
  | pong => some (commandOf 0x0F client [])
  | offerService s => some (commandOf 0x10 client s.payload)
  | stopOfferService s => some (commandOf 0x11 client s.payload)
  | requestServices requests =>
    if requests = [] ∨ 10 * requests.length > 2 ^ 32 - 1 then none
    else some (commandOf 0x14 client (requests.flatMap ServiceData.entry))
  | releaseService service instance_ =>
    some (commandOf 0x15 client (ofWord service ++ ofWord instance_))
  | unregisterEvent service instance_ event isProvided =>
    some (commandOf 0x1C client (ofWord service ++ (ofWord instance_ ++ (ofWord event ++
      [ofBool isProvided]))))
  | subscribe service instance_ eventgroup major event subscriptionType =>
    some (commandOf 0x12 client (subscribePayload service instance_ eventgroup major event
      subscriptionType defaultSubscription))
  | unsubscribe service instance_ eventgroup event =>
    some (commandOf 0x13 client
      (unsubscribePayload service instance_ eventgroup event defaultSubscription))
  | subscribeAck service instance_ eventgroup subscriber event subscriptionId =>
    some (commandOf 0x17 client
      (answerPayload service instance_ eventgroup subscriber event subscriptionId))
  | subscribeNack service instance_ eventgroup subscriber event subscriptionId =>
    some (commandOf 0x16 client
      (answerPayload service instance_ eventgroup subscriber event subscriptionId))
  | unsubscribeAck service instance_ eventgroup subscriptionId =>
    some (commandOf 0x21 client (ofWord service ++ (ofWord instance_ ++ (ofWord eventgroup ++
      ofWord subscriptionId))))
  | identifyResponse service instance_ reliable =>
    some (commandOf 0x1D client (ofWord service ++ (ofWord instance_ ++ [ofBool reliable])))
  | getOfferedServicesInfo offerType => some (commandOf 0x1F client [offerType])

/-- What the functions of `routing_manager_stub` send: `broadcast_ping`, `send_subscribe`,
`send_unsubscribe`, `send_subscribe_ack`, `send_subscribe_nack` and `send_identify_request_command`. The
type of a subscription is set to zero. -/
def HostCommand.command (client : UInt16) : HostCommand → List UInt8
  | ping => commandOf 0x0E client []
  | subscribe service instance_ eventgroup major event subscriptionId =>
    commandOf 0x12 client
      (subscribePayload service instance_ eventgroup major event 0 subscriptionId)
  | unsubscribe service instance_ eventgroup event subscriptionId =>
    commandOf 0x13 client (unsubscribePayload service instance_ eventgroup event subscriptionId)
  | subscribeAck service instance_ eventgroup subscriber event =>
    commandOf 0x17 client
      (answerPayload service instance_ eventgroup subscriber event defaultSubscription)
  | subscribeNack service instance_ eventgroup subscriber event =>
    commandOf 0x16 client
      (answerPayload service instance_ eventgroup subscriber event defaultSubscription)
  | identifyRequest service instance_ major reliable =>
    commandOf 0x1E client (ofWord service ++ (ofWord instance_ ++ [major, ofBool reliable]))

/-! ## What the other side is asked to do -/

/-- What an application asks the routing manager to do, as far as the policy allows it. -/
def ApplicationCommand.stubCalls (cfg : StubConfig) (client : UInt16) :
    ApplicationCommand → List StubCall
  | registerApplication => [.updateRegistration client true]
  | deregisterApplication => [.updateRegistration client false]
  | registeredAck => []
  | pong => [.onPong client]
  | offerService s => [.offerService client s.service s.instance_ s.major s.minor]
  | stopOfferService s => [.stopOfferService client s.service s.instance_ s.major s.minor]
  | requestServices requests =>
    ((requests.filter fun s => cfg.isClientAllowed client s.key.1 s.key.2).map fun s =>
      .requestService client s.key.1 s.key.2 s.version.major s.version.minor s.useExclusiveProxy) ++
        [.handleRequests client]
  | releaseService service instance_ => [.releaseService client service instance_]
  | unregisterEvent service instance_ event isProvided =>
    if isProvided && !cfg.isOfferedRemote service instance_ then []
    else [.unregisterShadowEvent client service instance_ event isProvided]
  | subscribe service instance_ eventgroup major event subscriptionType =>
    if cfg.isClientAllowed client service instance_ then
      [.subscribe client service instance_ eventgroup major event subscriptionType]
    else []
  | unsubscribe service instance_ eventgroup event =>
    [.unsubscribe client service instance_ eventgroup event]
  | subscribeAck service instance_ eventgroup subscriber event subscriptionId =>
    [.onSubscribeAck subscriber service instance_ eventgroup event subscriptionId]
  | subscribeNack service instance_ eventgroup subscriber event subscriptionId =>
    [.onSubscribeNack subscriber service instance_ eventgroup event subscriptionId]
  | unsubscribeAck service instance_ eventgroup subscriptionId =>
    [.onUnsubscribeAck client service instance_ eventgroup subscriptionId]
  | identifyResponse service instance_ reliable =>
    [.onIdentifyResponse client service instance_ reliable]
  | getOfferedServicesInfo offerType => [.sendOfferedServicesInfo client offerType]

/-- What an application asks another one to do, which knows the commands about subscriptions only. -/
def ApplicationCommand.proxyCalls (client : UInt16) : ApplicationCommand → List ProxyCall
  | subscribe service instance_ eventgroup major event _ =>
    [.onSubscription client service instance_ eventgroup major event defaultSubscription]
  | unsubscribe service instance_ eventgroup event =>
    [.onUnsubscription client service instance_ eventgroup event defaultSubscription]
  | subscribeAck service instance_ eventgroup subscriber event _ =>
    [.onSubscribeAck subscriber service instance_ eventgroup event]
  | subscribeNack service instance_ eventgroup subscriber event _ =>
    [.onSubscribeNack subscriber service instance_ eventgroup event]
  | _ => []

/-- What the routing manager asks an application to do. -/
def HostCommand.proxyCalls (client : UInt16) : HostCommand → List ProxyCall
  | ping => [.sendPong]
  | subscribe service instance_ eventgroup major event subscriptionId =>
    [.onSubscription client service instance_ eventgroup major event subscriptionId]
  | unsubscribe service instance_ eventgroup event subscriptionId =>
    [.onUnsubscription client service instance_ eventgroup event subscriptionId]
  | subscribeAck service instance_ eventgroup subscriber event =>
    [.onSubscribeAck subscriber service instance_ eventgroup event]
  | subscribeNack service instance_ eventgroup subscriber event =>
    [.onSubscribeNack subscriber service instance_ eventgroup event]
  | identifyRequest service instance_ major reliable =>
    [.sendIdentifyRequest service instance_ major reliable]

/-! ## Taking commands apart -/

section Parse

variable {type : UInt8} {client : UInt16} {payload : List UInt8}

/-- A command of the stub, if its size has 32 bits. -/
lemma StubCommand.onMessage_commandOf (cfg : StubConfig) (hlt : payload.length < 2 ^ 32) :
    StubCommand.onMessage cfg (commandOf type client payload) =
      if cfg.isSecurityEnabled && cfg.boundClient != client then pure []
      else dispatch cfg (commandOf type client payload) client (UInt32.ofNat payload.length)
        (.ofByte type) :=
  StubCommand.onMessage_header cfg (by rw [UInt32.toNat_ofNat_of_lt' hlt])

/-- An entry of a REQUEST_SERVICE command takes ten bytes. -/
lemma length_entry (s : ServiceData) : s.entry.length = 10 := rfl

/-- The entries of a REQUEST_SERVICE command take ten bytes each. -/
lemma length_flatMap_entry (requests : List ServiceData) :
    (requests.flatMap ServiceData.entry).length = 10 * requests.length := by
  induction requests with
  | nil => rfl
  | cons r requests ih =>
    rw [List.flatMap_cons, List.length_append, ih, length_entry, List.length_cons]
    omega

/-- The entry of a request stands at its place. -/
lemma drop_flatMap_entry (requests : List ServiceData) {i : ℕ} {s : ServiceData}
    (h : requests[i]? = some s) : ∃ rest, (requests.flatMap ServiceData.entry).drop (i * 10) =
      s.entry ++ rest := by
  induction requests generalizing i with
  | nil => exact absurd h nofun
  | cons r requests ih =>
    cases i with
    | zero =>
      obtain rfl := Option.some.inj h
      exact ⟨_, rfl⟩
    | succ i =>
      obtain ⟨rest, hrest⟩ := ih h
      refine ⟨rest, ?_⟩
      rw [List.flatMap_cons, Nat.succ_mul, Nat.add_comm, ← List.drop_drop, ← length_entry r,
        List.drop_left, length_entry, hrest]

/-- A request is read where its entry stands. -/
lemma StubCommand.request_eq (cfg : StubConfig) {data rest : List UInt8} (client : UInt16) {i : ℕ}
    {s : ServiceData} (h : data.drop (payloadPos + i * 10) = s.entry ++ rest) :
    StubCommand.request cfg data client i =
      .ok (if cfg.isClientAllowed client s.key.1 s.key.2 then
        [.requestService client s.key.1 s.key.2 s.version.major s.version.minor s.useExclusiveProxy]
      else []) := by
  have hdrop (j : ℕ) : data.drop (payloadPos + j + i * 10) = (s.entry ++ rest).drop j := by
    rw [← h, List.drop_drop, Nat.add_right_comm]
  have hservice : word data (payloadPos + i * 10) = .ok s.key.1 := word_of_drop_ofWord h
  have hinstance : word data (payloadPos + 2 + i * 10) = .ok s.key.2 :=
    word_of_drop_ofWord (hdrop 2)
  have hmajor : byte data (payloadPos + 4 + i * 10) = .ok s.version.major := byte_of_drop (hdrop 4)
  have hminor : long data (payloadPos + 5 + i * 10) = .ok s.version.minor := long_of_drop (hdrop 5)
  have hproxy : Command.bool data (payloadPos + 9 + i * 10) = .ok s.useExclusiveProxy :=
    bool_of_drop (hdrop 9)
  rw [StubCommand.request, hservice, hinstance, hmajor, hminor, hproxy]
  rfl

/-- The calls for some requests are those for the ones that are allowed. -/
lemma flatten_map_ite {α β : Type} (p : α → Bool) (f : α → β) (l : List α) :
    (l.map fun a => if p a then [f a] else []).flatten = (l.filter p).map f := by
  induction l with
  | nil => rfl
  | cons a l ih =>
    rw [List.map_cons, List.flatten_cons, ih, List.filter_cons]
    split <;> rfl

/-- The requests are read one after the other. -/
lemma StubCommand.requestService_eq (cfg : StubConfig) (client : UInt16) {requests : List ServiceData}
    (hlt : 10 * requests.length < 2 ^ 32) :
    StubCommand.requestService cfg (commandOf 0x14 client (requests.flatMap ServiceData.entry)) client
        (UInt32.ofNat (requests.flatMap ServiceData.entry).length) =
      .ok ((ApplicationCommand.requestServices requests).stubCalls cfg client) := by
  let calls (s : ServiceData) : List StubCall :=
    if cfg.isClientAllowed client s.key.1 s.key.2 then
      [.requestService client s.key.1 s.key.2 s.version.major s.version.minor s.useExclusiveProxy]
    else []
  have hsize : (UInt32.ofNat (requests.flatMap ServiceData.entry).length).toNat / 10 =
      requests.length := by
    rw [length_flatMap_entry, UInt32.toNat_ofNat_of_lt' hlt]
    exact Nat.mul_div_cancel_left _ (by decide)
  have hreads : ∀ i ∈ List.range requests.length,
      StubCommand.request cfg (commandOf 0x14 client (requests.flatMap ServiceData.entry)) client i =
        .ok ((requests[i]?.map calls).getD []) := by
    intro i hi
    have hlt : i < requests.length := List.mem_range.mp hi
    have hget : requests[i]? = some requests[i] := List.getElem?_eq_getElem hlt
    obtain ⟨rest, hrest⟩ := drop_flatMap_entry requests hget
    have hdrop : (commandOf 0x14 client (requests.flatMap ServiceData.entry)).drop
        (payloadPos + i * 10) = requests[i].entry ++ rest := by
      rw [← List.drop_drop, commandOf, drop_header, hrest]
    rw [hget, StubCommand.request_eq cfg client hdrop]
    rfl
  have hall : (List.range requests.length).map (fun i => (requests[i]?.map calls).getD []) =
      requests.map calls := by
    refine List.ext_getElem (by simp) fun i hi hi' => ?_
    have hlt : i < requests.length := by simpa using hi'
    simp [List.getElem?_eq_getElem hlt]
  have hcalls : (requests.map calls).flatten =
      (requests.filter fun s => cfg.isClientAllowed client s.key.1 s.key.2).map fun s =>
        .requestService client s.key.1 s.key.2 s.version.major s.version.minor s.useExclusiveProxy :=
    flatten_map_ite (fun s => cfg.isClientAllowed client s.key.1 s.key.2) _ requests
  rw [StubCommand.requestService, hsize, mapM_eq_ok hreads, hall, ok_bind, hcalls]
  rfl

/-- What is read of a SUBSCRIBE. -/
lemma reads_subscribePayload (client service instance_ eventgroup : UInt16) (major : UInt8)
    (event : UInt16) (subscriptionType : UInt8) (subscriptionId : UInt16) :
    let data := commandOf 0x12 client
      (subscribePayload service instance_ eventgroup major event subscriptionType subscriptionId)
    word data payloadPos = .ok service ∧ word data (payloadPos + 2) = .ok instance_ ∧
      word data (payloadPos + 4) = .ok eventgroup ∧ byte data (payloadPos + 6) = .ok major ∧
      word data (payloadPos + 7) = .ok event ∧ byte data (payloadPos + 9) = .ok subscriptionType ∧
      word data (payloadPos + 10) = .ok subscriptionId :=
  ⟨word_of_drop_ofWord rfl, word_of_drop_ofWord rfl, word_of_drop_ofWord rfl, byte_of_drop rfl,
    word_of_drop_ofWord rfl, byte_of_drop rfl,
    word_of_drop_ofWord (show _ = ofWord subscriptionId ++ [] from rfl)⟩

/-- What is read of an UNSUBSCRIBE. -/
lemma reads_unsubscribePayload (client service instance_ eventgroup event subscriptionId : UInt16) :
    let data := commandOf 0x13 client
      (unsubscribePayload service instance_ eventgroup event subscriptionId)
    word data payloadPos = .ok service ∧ word data (payloadPos + 2) = .ok instance_ ∧
      word data (payloadPos + 4) = .ok eventgroup ∧ word data (payloadPos + 6) = .ok event ∧
      word data (payloadPos + 8) = .ok subscriptionId :=
  ⟨word_of_drop_ofWord rfl, word_of_drop_ofWord rfl, word_of_drop_ofWord rfl, word_of_drop_ofWord rfl,
    word_of_drop_ofWord (show _ = ofWord subscriptionId ++ [] from rfl)⟩

/-- What is read of the answer to a SUBSCRIBE. -/
lemma reads_answerPayload (type : UInt8)
    (client service instance_ eventgroup subscriber event subscriptionId : UInt16) :
    let data := commandOf type client
      (answerPayload service instance_ eventgroup subscriber event subscriptionId)
    word data payloadPos = .ok service ∧ word data (payloadPos + 2) = .ok instance_ ∧
      word data (payloadPos + 4) = .ok eventgroup ∧ word data (payloadPos + 6) = .ok subscriber ∧
      word data (payloadPos + 8) = .ok event ∧ word data (payloadPos + 10) = .ok subscriptionId :=
  ⟨word_of_drop_ofWord rfl, word_of_drop_ofWord rfl, word_of_drop_ofWord rfl, word_of_drop_ofWord rfl,
    word_of_drop_ofWord rfl, word_of_drop_ofWord (show _ = ofWord subscriptionId ++ [] from rfl)⟩

end Parse

/-! ### What the stub reads -/

namespace StubCommand

variable {cfg : StubConfig} {client : UInt16}

/-- An OFFER_SERVICE command is read back. -/
lemma offerService_eq (s : ServiceInstance) :
    offerService (commandOf 0x10 client s.payload) client =
      .ok [.offerService client s.service s.instance_ s.major s.minor] := by
  have hminor : long (commandOf 0x10 client s.payload) (payloadPos + 5) = .ok s.minor :=
    long_of_drop (show _ = ofLong s.minor ++ [] from rfl)
  rw [offerService, ofSize, word_of_drop_ofWord (x := s.service) rfl,
    word_of_drop_ofWord (x := s.instance_) rfl, byte_of_drop (b := s.major) rfl, hminor]
  rfl

/-- A STOP_OFFER_SERVICE command is read back. -/
lemma stopOfferService_eq (s : ServiceInstance) :
    stopOfferService (commandOf 0x11 client s.payload) client =
      .ok [.stopOfferService client s.service s.instance_ s.major s.minor] := by
  have hminor : long (commandOf 0x11 client s.payload) (payloadPos + 5) = .ok s.minor :=
    long_of_drop (show _ = ofLong s.minor ++ [] from rfl)
  rw [stopOfferService, ofSize, word_of_drop_ofWord (x := s.service) rfl,
    word_of_drop_ofWord (x := s.instance_) rfl, byte_of_drop (b := s.major) rfl, hminor]
  rfl

/-- A RELEASE_SERVICE command is read back. -/
lemma releaseService_eq (service instance_ : UInt16) :
    releaseService (commandOf 0x15 client (ofWord service ++ ofWord instance_)) client =
      .ok [.releaseService client service instance_] := by
  have hinstance : word (commandOf 0x15 client (ofWord service ++ ofWord instance_)) (payloadPos + 2) =
      .ok instance_ := word_of_drop_ofWord (show _ = ofWord instance_ ++ [] from rfl)
  rw [releaseService, ofSize, word_of_drop_ofWord (x := service) rfl, hinstance]
  rfl

/-- An UNREGISTER_EVENT command is read back, unless the stub filters the event. -/
lemma unregisterEvent_eq (service instance_ event : UInt16) (isProvided : Bool) :
    unregisterEvent cfg (commandOf 0x1C client (ofWord service ++ (ofWord instance_ ++ (ofWord event ++
        [ofBool isProvided])))) client =
      .ok (if isProvided && !cfg.isOfferedRemote service instance_ then []
        else [.unregisterShadowEvent client service instance_ event isProvided]) := by
  rw [unregisterEvent, ofSize, word_of_drop_ofWord (x := service) rfl,
    word_of_drop_ofWord (x := instance_) rfl, word_of_drop_ofWord (x := event) rfl,
    bool_of_drop (b := isProvided) rfl]
  rfl

/-- A SUBSCRIBE is carried out as it was meant, if the policy admits it. -/
lemma subscribe_eq (service instance_ eventgroup : UInt16) (major : UInt8) (event : UInt16)
    (subscriptionType : UInt8) (subscriptionId : UInt16) :
    subscribe cfg (commandOf 0x12 client (subscribePayload service instance_ eventgroup major event
        subscriptionType subscriptionId)) client =
      .ok (if cfg.isClientAllowed client service instance_ then
        [.subscribe client service instance_ eventgroup major event subscriptionType] else []) := by
  obtain ⟨hservice, hinstance, heventgroup, hmajor, hevent, htype, -⟩ := reads_subscribePayload client
    service instance_ eventgroup major event subscriptionType subscriptionId
  rw [subscribe, ofSize, hservice, hinstance, heventgroup, hmajor, hevent, htype]
  rfl

/-- An UNSUBSCRIBE is carried out as it was meant. -/
lemma unsubscribe_eq (service instance_ eventgroup event subscriptionId : UInt16) :
    unsubscribe (commandOf 0x13 client
        (unsubscribePayload service instance_ eventgroup event subscriptionId)) client =
      .ok [.unsubscribe client service instance_ eventgroup event] := by
  obtain ⟨hservice, hinstance, heventgroup, hevent, -⟩ := reads_unsubscribePayload client service
    instance_ eventgroup event subscriptionId
  rw [unsubscribe, ofSize, hservice, hinstance, heventgroup, hevent]
  rfl

/-- The answer to a SUBSCRIBE is taken as it was meant. -/
lemma subscribeAnswer_eq (type : UInt8)
    (call : UInt16 → UInt16 → UInt16 → UInt16 → UInt16 → UInt16 → StubCall)
    (service instance_ eventgroup subscriber event subscriptionId : UInt16) :
    subscribeAnswer (commandOf type client
        (answerPayload service instance_ eventgroup subscriber event subscriptionId)) call =
      .ok [call subscriber service instance_ eventgroup event subscriptionId] := by
  obtain ⟨hservice, hinstance, heventgroup, hsubscriber, hevent, hid⟩ := reads_answerPayload type client
    service instance_ eventgroup subscriber event subscriptionId
  rw [subscribeAnswer, ofSize, hservice, hinstance, heventgroup, hsubscriber, hevent, hid]
  rfl

/-- An UNSUBSCRIBE_ACK command is read back. -/
lemma unsubscribeAck_eq (service instance_ eventgroup subscriptionId : UInt16) :
    unsubscribeAck (commandOf 0x21 client (ofWord service ++ (ofWord instance_ ++ (ofWord eventgroup ++
        ofWord subscriptionId)))) client =
      .ok [.onUnsubscribeAck client service instance_ eventgroup subscriptionId] := by
  have hid : word (commandOf 0x21 client (ofWord service ++ (ofWord instance_ ++ (ofWord eventgroup ++
      ofWord subscriptionId)))) (payloadPos + 6) = .ok subscriptionId :=
    word_of_drop_ofWord (show _ = ofWord subscriptionId ++ [] from rfl)
  rw [unsubscribeAck, ofSize, word_of_drop_ofWord (x := service) rfl,
    word_of_drop_ofWord (x := instance_) rfl, word_of_drop_ofWord (x := eventgroup) rfl, hid]
  rfl

/-- An ID_RESPONSE command is read back. -/
lemma idResponse_eq (service instance_ : UInt16) (reliable : Bool) :
    idResponse (commandOf 0x1D client (ofWord service ++ (ofWord instance_ ++ [ofBool reliable])))
        client =
      .ok [.onIdentifyResponse client service instance_ reliable] := by
  rw [idResponse, ofSize, word_of_drop_ofWord (x := service) rfl,
    word_of_drop_ofWord (x := instance_) rfl, bool_of_drop (b := reliable) rfl]
  rfl

/-- An OFFERED_SERVICES_REQUEST command is read back. -/
lemma offeredServicesRequest_eq (offerType : UInt8) :
    offeredServicesRequest (commandOf 0x1F client [offerType]) client =
      .ok [.sendOfferedServicesInfo client offerType] := by
  rw [offeredServicesRequest, ofSize, byte_of_drop (b := offerType) rfl]
  rfl

/-- A command of the client with a short payload. -/
lemma onMessage_small {type : UInt8} {payload : List UInt8}
    (hpasses : ¬ (cfg.isSecurityEnabled && cfg.boundClient != client)) (hle : payload.length ≤ 12) :
    onMessage cfg (commandOf type client payload) =
      dispatch cfg (commandOf type client payload) client (UInt32.ofNat payload.length)
        (.ofByte type) :=
  (onMessage_commandOf cfg (by omega)).trans (if_neg hpasses)

/-- The stub does what an application asks for. -/
lemma onMessage_command (hpasses : ¬ (cfg.isSecurityEnabled && cfg.boundClient != client))
    {c : ApplicationCommand} {m : List UInt8} (h : c.command client = some m) :
    onMessage cfg m = .ok (c.stubCalls cfg client) := by
  cases c with
  | requestServices requests =>
    rw [ApplicationCommand.command] at h
    split_ifs at h with hsize
    obtain rfl := Option.some.inj h
    have hlt : 10 * requests.length < 2 ^ 32 := by omega
    rw [onMessage_commandOf cfg (by rwa [length_flatMap_entry]), if_neg hpasses]
    exact requestService_eq cfg client hlt
  | registerApplication =>
    obtain rfl := Option.some.inj h
    rw [onMessage_small hpasses (Nat.le_of_ble_eq_true rfl)]
    rfl
  | deregisterApplication =>
    obtain rfl := Option.some.inj h
    rw [onMessage_small hpasses (Nat.le_of_ble_eq_true rfl)]
    rfl
  | registeredAck =>
    obtain rfl := Option.some.inj h
    rw [onMessage_small hpasses (Nat.le_of_ble_eq_true rfl)]
    rfl
  | pong =>
    obtain rfl := Option.some.inj h
    rw [onMessage_small hpasses (Nat.le_of_ble_eq_true rfl)]
    rfl
  | offerService s =>
    obtain rfl := Option.some.inj h
    rw [onMessage_small hpasses (Nat.le_of_ble_eq_true rfl)]
    exact offerService_eq s
  | stopOfferService s =>
    obtain rfl := Option.some.inj h
    rw [onMessage_small hpasses (Nat.le_of_ble_eq_true rfl)]
    exact stopOfferService_eq s
  | releaseService service instance_ =>
    obtain rfl := Option.some.inj h
    rw [onMessage_small hpasses (Nat.le_of_ble_eq_true rfl)]
    exact releaseService_eq service instance_
  | unregisterEvent service instance_ event isProvided =>
    obtain rfl := Option.some.inj h
    rw [onMessage_small hpasses (Nat.le_of_ble_eq_true rfl)]
    exact unregisterEvent_eq service instance_ event isProvided
  | subscribe service instance_ eventgroup major event subscriptionType =>
    obtain rfl := Option.some.inj h
    rw [onMessage_small hpasses (Nat.le_of_ble_eq_true rfl)]
    exact subscribe_eq service instance_ eventgroup major event subscriptionType _
  | unsubscribe service instance_ eventgroup event =>
    obtain rfl := Option.some.inj h
    rw [onMessage_small hpasses (Nat.le_of_ble_eq_true rfl)]
    exact unsubscribe_eq service instance_ eventgroup event _
  | subscribeAck service instance_ eventgroup subscriber event subscriptionId =>
    obtain rfl := Option.some.inj h
    rw [onMessage_small hpasses (Nat.le_of_ble_eq_true rfl)]
    exact subscribeAnswer_eq _ _ service instance_ eventgroup subscriber event subscriptionId
  | subscribeNack service instance_ eventgroup subscriber event subscriptionId =>
    obtain rfl := Option.some.inj h
    rw [onMessage_small hpasses (Nat.le_of_ble_eq_true rfl)]
    exact subscribeAnswer_eq _ _ service instance_ eventgroup subscriber event subscriptionId
  | unsubscribeAck service instance_ eventgroup subscriptionId =>
    obtain rfl := Option.some.inj h
    rw [onMessage_small hpasses (Nat.le_of_ble_eq_true rfl)]
    exact unsubscribeAck_eq service instance_ eventgroup subscriptionId
  | identifyResponse service instance_ reliable =>
    obtain rfl := Option.some.inj h
    rw [onMessage_small hpasses (Nat.le_of_ble_eq_true rfl)]
    exact idResponse_eq service instance_ reliable
  | getOfferedServicesInfo offerType =>
    obtain rfl := Option.some.inj h
    rw [onMessage_small hpasses (Nat.le_of_ble_eq_true rfl)]
    exact offeredServicesRequest_eq offerType

end StubCommand

/-! ### What the proxy reads -/

namespace ProxyCommand

variable {cfg : ProxyConfig} {client : UInt16}

/-- A SUBSCRIBE is carried out as it was meant. -/
lemma subscribe_eq (service instance_ eventgroup : UInt16) (major : UInt8) (event : UInt16)
    (subscriptionType : UInt8) (subscriptionId : UInt16) :
    subscribe (commandOf 0x12 client (subscribePayload service instance_ eventgroup major event
        subscriptionType subscriptionId)) client =
      .ok [.onSubscription client service instance_ eventgroup major event subscriptionId] := by
  obtain ⟨hservice, hinstance, heventgroup, hmajor, hevent, -, hid⟩ := reads_subscribePayload client
    service instance_ eventgroup major event subscriptionType subscriptionId
  rw [subscribe, ofSize, hservice, hinstance, heventgroup, hmajor, hevent, hid]
  rfl

/-- An UNSUBSCRIBE is carried out as it was meant. -/
lemma unsubscribe_eq (service instance_ eventgroup event subscriptionId : UInt16) :
    unsubscribe (commandOf 0x13 client
        (unsubscribePayload service instance_ eventgroup event subscriptionId)) client =
      .ok [.onUnsubscription client service instance_ eventgroup event subscriptionId] := by
  obtain ⟨hservice, hinstance, heventgroup, hevent, hid⟩ := reads_unsubscribePayload client service
    instance_ eventgroup event subscriptionId
  rw [unsubscribe, ofSize, hservice, hinstance, heventgroup, hevent, hid]
  rfl

/-- The answer to a SUBSCRIBE is taken as it was meant. -/
lemma subscribeAnswer_eq (type : UInt8)
    (call : UInt16 → UInt16 → UInt16 → UInt16 → UInt16 → ProxyCall)
    (service instance_ eventgroup subscriber event subscriptionId : UInt16) :
    subscribeAnswer (commandOf type client
        (answerPayload service instance_ eventgroup subscriber event subscriptionId)) call =
      .ok [call subscriber service instance_ eventgroup event] := by
  obtain ⟨hservice, hinstance, heventgroup, hsubscriber, hevent, -⟩ := reads_answerPayload type client
    service instance_ eventgroup subscriber event subscriptionId
  rw [subscribeAnswer, ofSize, hservice, hinstance, heventgroup, hsubscriber, hevent]
  rfl

/-- An ID_REQUEST command is read back. -/
lemma idRequest_eq (service instance_ : UInt16) (major : UInt8) (reliable : Bool) :
    idRequest (commandOf 0x1E client (ofWord service ++ (ofWord instance_ ++
        [major, ofBool reliable]))) =
      .ok [.sendIdentifyRequest service instance_ major reliable] := by
  rw [idRequest, word_of_drop_ofWord (x := service) rfl, word_of_drop_ofWord (x := instance_) rfl,
    byte_of_drop (b := major) rfl, bool_of_drop (b := reliable) rfl]
  rfl

/-- The proxy does not skip the commands of a client. -/
def Passes (cfg : ProxyConfig) (client : UInt16) : Prop :=
  ¬ (cfg.isSecurityEnabled && cfg.boundClient != cfg.routingHostId && cfg.boundClient != client)

/-- A command with a header that fits reaches the branch of its type. -/
lemma onMessage_commandOf {type : UInt8} {payload : List UInt8} (hpasses : Passes cfg client) :
    onMessage cfg (commandOf type client payload) =
      dispatch cfg (commandOf type client payload) client (UInt32.ofNat payload.length)
        (.ofByte type) :=
  (onMessage_header cfg).trans (if_neg hpasses)

/-- The proxy does what another application asks for. -/
lemma onMessage_command (hpasses : Passes cfg client) {c : ApplicationCommand} {m : List UInt8}
    (h : c.command client = some m) : onMessage cfg m = .ok (c.proxyCalls client) := by
  cases c with
  | subscribe service instance_ eventgroup major event subscriptionType =>
    obtain rfl := Option.some.inj h
    rw [onMessage_commandOf hpasses]
    exact subscribe_eq service instance_ eventgroup major event subscriptionType _
  | unsubscribe service instance_ eventgroup event =>
    obtain rfl := Option.some.inj h
    rw [onMessage_commandOf hpasses]
    exact unsubscribe_eq service instance_ eventgroup event _
  | subscribeAck service instance_ eventgroup subscriber event subscriptionId =>
    obtain rfl := Option.some.inj h
    rw [onMessage_commandOf hpasses]
    exact subscribeAnswer_eq _ _ service instance_ eventgroup subscriber event subscriptionId
  | subscribeNack service instance_ eventgroup subscriber event subscriptionId =>
    obtain rfl := Option.some.inj h
    rw [onMessage_commandOf hpasses]
    exact subscribeAnswer_eq _ _ service instance_ eventgroup subscriber event subscriptionId
  | requestServices requests =>
    rw [ApplicationCommand.command] at h
    split_ifs at h
    obtain rfl := Option.some.inj h
    rw [onMessage_commandOf hpasses]
    rfl
  | registerApplication | deregisterApplication | registeredAck | pong | offerService |
      stopOfferService | releaseService | unregisterEvent | unsubscribeAck | identifyResponse |
      getOfferedServicesInfo =>
    obtain rfl := Option.some.inj h
    rw [onMessage_commandOf hpasses]
    rfl

/-- The proxy does what the routing manager asks for. -/
lemma onMessage_hostCommand (hpasses : Passes cfg client) (c : HostCommand) :
    onMessage cfg (c.command client) = .ok (c.proxyCalls client) := by
  cases c with
  | ping => exact onMessage_commandOf hpasses
  | subscribe service instance_ eventgroup major event subscriptionId =>
    rw [HostCommand.command, onMessage_commandOf hpasses]
    exact subscribe_eq service instance_ eventgroup major event 0 subscriptionId
  | unsubscribe service instance_ eventgroup event subscriptionId =>
    rw [HostCommand.command, onMessage_commandOf hpasses]
    exact unsubscribe_eq service instance_ eventgroup event subscriptionId
  | subscribeAck service instance_ eventgroup subscriber event =>
    rw [HostCommand.command, onMessage_commandOf hpasses]
    exact subscribeAnswer_eq _ _ service instance_ eventgroup subscriber event _
  | subscribeNack service instance_ eventgroup subscriber event =>
    rw [HostCommand.command, onMessage_commandOf hpasses]
    exact subscribeAnswer_eq _ _ service instance_ eventgroup subscriber event _
  | identifyRequest service instance_ major reliable =>
    rw [HostCommand.command, onMessage_commandOf hpasses]
    exact idRequest_eq service instance_ major reliable

end ProxyCommand

/-! ## The stream -/

/-- A payload that is short, or has an even size of 32 bits. -/
structure Unmistakable (payload : List UInt8) : Prop where
  lt : payload.length < 2 ^ 32
  size : payload.length ≤ 12 ∨ payload.length % 2 = 0

/-- A short payload cannot be mistaken. -/
lemma Unmistakable.of_le {payload : List UInt8} (h : payload.length ≤ 12) : Unmistakable payload :=
  ⟨by omega, .inl h⟩

/-- The commands of an application have such payloads. -/
lemma ApplicationCommand.exists_payload {client : UInt16} {c : ApplicationCommand} {m : List UInt8}
    (h : c.command client = some m) :
    ∃ type payload, m = commandOf type client payload ∧ Unmistakable payload := by
  cases c with
  | requestServices requests =>
    rw [command] at h
    split_ifs at h with hsize
    refine ⟨_, _, (Option.some.inj h).symm, ?_, .inr ?_⟩ <;> rw [length_flatMap_entry] <;> omega
  | registerApplication | deregisterApplication | registeredAck | pong | offerService |
      stopOfferService | releaseService | unregisterEvent | subscribe | unsubscribe | subscribeAck |
      subscribeNack | unsubscribeAck | identifyResponse | getOfferedServicesInfo =>
    exact ⟨_, _, (Option.some.inj h).symm, .of_le (Nat.le_of_ble_eq_true rfl)⟩

/-- So have those of the routing manager. -/
lemma HostCommand.exists_payload (client : UInt16) (c : HostCommand) :
    ∃ type payload, c.command client = commandOf type client payload ∧ Unmistakable payload := by
  cases c <;> exact ⟨_, _, rfl, .of_le (Nat.le_of_ble_eq_true rfl)⟩

/-- A command of the stream, no beginning of whose frame is misleading. -/
def Plain (cfg : RecvConfig) (m : List UInt8) : Prop :=
  LocalCommand cfg m ∧ ∀ p, p <+: LocalClient.sendQueued m →
    p.length < (LocalClient.sendQueued m).length → ¬ Misleading p

section Plain

variable {type : UInt8} {client : UInt16} {payload : List UInt8}

/-- The length of a command. -/
lemma length_commandOf : (commandOf type client payload).length = payload.length + 7 := by
  rw [commandOf, List.length_append, length_header, Nat.add_comm]

/-- The size field of a command is the size of its payload. -/
lemma commandSize_commandOf :
    LocalServer.commandSize (commandOf type client payload) 0 = UInt32.ofNat payload.length :=
  bytesToLong_longByte _

/-- The lowest byte of the size is one of three bytes of the end tag that stands in a misleading
beginning of the frame. -/
lemma size_of_misleading {p : List UInt8}
    (hpre : p <+: LocalClient.sendQueued (commandOf type client payload)) (h : Misleading p) :
    longByte0 (UInt32.ofNat payload.length) ∈ [0x67, 0x37, 0x6D] := by
  obtain ⟨h8, h10, j, hj, htag⟩ := h
  have hsize : p[7]? = some (longByte0 (UInt32.ofNat payload.length)) := by
    obtain ⟨t, ht⟩ := hpre
    have hget : (p ++ t)[7]? = p[7]? := List.getElem?_append_left (by omega)
    rw [← hget, ht]
    rfl
  have hbyte (k : ℕ) (hk : k < 4) : endTag[k]? = p[4 + j + k]? := by
    rw [← htag, List.getElem?_take_of_lt hk, List.getElem?_drop]
  have hj : j = 0 ∨ j = 1 ∨ j = 2 := by omega
  rcases hj with rfl | rfl | rfl
  · have h3 := (hbyte 3 (by decide)).trans hsize
    exact Option.some.inj h3 ▸ by decide
  · have h2 := (hbyte 2 (by decide)).trans hsize
    exact Option.some.inj h2 ▸ by decide
  · have h1 := (hbyte 1 (by decide)).trans hsize
    exact Option.some.inj h1 ▸ by decide

/-- Commands with such payloads are plain, if the other side does not refuse their sizes. -/
lemma Unmistakable.plain {cfg : RecvConfig} (h : Unmistakable payload)
    (hmax : payload.length ≤ cfg.maxMessageSize.toNat) : Plain cfg (commandOf type client payload) := by
  have htoNat : (UInt32.ofNat payload.length).toNat = payload.length := UInt32.toNat_ofNat_of_lt' h.lt
  refine ⟨⟨?_, ?_, ?_⟩, fun p hpre _ hmis => ?_⟩
  · rw [length_commandOf]
    exact Nat.le_add_left 7 _
  · rw [commandSize_commandOf, htoNat, length_commandOf]
  · rw [commandSize_commandOf, UInt32.le_iff_toNat_le, htoNat]
    exact hmax
  · have hbyte := longByte0_toNat (UInt32.ofNat payload.length)
    rw [htoNat] at hbyte
    have hsize := h.size
    have hmem := size_of_misleading hpre hmis
    simp only [List.mem_cons, List.not_mem_nil, or_false] at hmem
    rcases hmem with heq | heq | heq <;> rw [heq] at hbyte <;> change _ = _ % 256 at hbyte <;>
      simp at hbyte <;> omega

end Plain

/-! ## What arrives -/

/-- The commands that a local server endpoint delivers for some chunks. -/
def received (max shrink : UInt32) (cs : List (List UInt8)) : List (List UInt8) :=
  (Framing.run (LocalServer.step (LocalServer.config max shrink)) (LocalServer.start
    (LocalServer.config max shrink)) cs).2

/-- The chunks are a cut of the stream of some commands which the connection accepts. -/
structure IsCut (max shrink : UInt32) (ms cs : List (List UInt8)) : Prop where
  accepts : Framing.Cut (LocalServer.step (LocalServer.config max shrink)) LocalAccepts
    (LocalServer.start (LocalServer.config max shrink)) cs
  flatten_eq : cs.flatten = (ms.map LocalClient.sendQueued).flatten

/-- Plain commands arrive as they are, however the stream is cut. -/
lemma received_run {max shrink : UInt32} {ms cs : List (List UInt8)}
    (hms : ∀ m ∈ ms, Plain (LocalServer.config max shrink) m) (hcut : IsCut max shrink ms cs) :
    received max shrink cs = ms := by
  have hgood : ¬ Misleading [] := fun h => absurd h.1 (by decide)
  refine ((LocalServer.reassembles max shrink).of_good hgood).run_eq (localPending_start max shrink)
    hms (fun m _ hnil => ?_) hcut.accepts hcut.flatten_eq
  simp [LocalClient.sendQueued, startTag] at hnil

section Calls

variable {α β : Type} {command : α → Option (List UInt8)} {read : List UInt8 → Except Fault β}
  {calls : α → β}

/-- The calls for what is sent, one after the other. -/
def sentCalls (command : α → Option (List UInt8)) (calls : α → β) (l : List α) : List β :=
  (l.filter fun a => (command a).isSome).map calls

/-- Commands that are all read back are read back one after the other. -/
lemma mapM_filterMap (h : ∀ a m, command a = some m → read m = .ok (calls a)) (l : List α) :
    (l.filterMap command).mapM read = .ok (sentCalls command calls l) := by
  induction l with
  | nil => rfl
  | cons a l ih =>
    cases hm : command a with
    | none =>
      have hcalls : sentCalls command calls (a :: l) = sentCalls command calls l :=
        congrArg (List.map calls) (List.filter_cons_of_neg (by simp [hm]))
      rw [List.filterMap_cons_none hm, ih, hcalls]
    | some m =>
      have hcalls : sentCalls command calls (a :: l) = calls a :: sentCalls command calls l :=
        congrArg (List.map calls) (List.filter_cons_of_pos (by simp [hm]))
      rw [List.filterMap_cons_some hm, List.mapM_cons, h a m hm, ih, hcalls]
      rfl

/-- What is read of plain commands that arrive. -/
lemma received_mapM {max shrink : UInt32} {l : List α} {cs : List (List UInt8)}
    (hplain : ∀ a m, command a = some m →
      ∃ type client payload, m = commandOf type client payload ∧ Unmistakable payload)
    (h : ∀ a m, command a = some m → read m = .ok (calls a))
    (hmax : ∀ m ∈ l.filterMap command, m.length ≤ max.toNat + 7)
    (hcut : IsCut max shrink (l.filterMap command) cs) :
    (received max shrink cs).mapM read = .ok (sentCalls command calls l) := by
  rw [received_run ?_ hcut, mapM_filterMap h]
  intro m hm
  obtain ⟨a, -, ha⟩ := List.mem_filterMap.mp hm
  obtain ⟨type, client, payload, rfl, hpayload⟩ := hplain a m ha
  have hle := hmax _ hm
  rw [length_commandOf] at hle
  exact hpayload.plain (Nat.le_of_add_le_add_right hle)

end Calls

/-- Commands, each on behalf of a client. -/
abbrev OnBehalf (α : Type) : Type := UInt16 × α

/-- The bytes of a command of an application. -/
def ApplicationCommand.bytes (c : OnBehalf ApplicationCommand) : Option (List UInt8) :=
  c.2.command c.1

/-- The bytes of a command of the routing manager. -/
def HostCommand.bytes (c : OnBehalf HostCommand) : Option (List UInt8) := some (c.2.command c.1)

/-- What the stub does for a command on a connection that may be bound to another client. -/
def StubConfig.calls (cfg : StubConfig) (c : OnBehalf ApplicationCommand) : List StubCall :=
  if cfg.isSecurityEnabled && cfg.boundClient != c.1 then [] else c.2.stubCalls cfg c.1

/-- The same of the proxy, for the commands of another application. -/
def ProxyConfig.calls (cfg : ProxyConfig) (c : OnBehalf ApplicationCommand) : List ProxyCall :=
  if cfg.isSecurityEnabled && cfg.boundClient != cfg.routingHostId && cfg.boundClient != c.1 then []
  else c.2.proxyCalls c.1

/-- The same for the commands of the routing manager. -/
def ProxyConfig.hostCalls (cfg : ProxyConfig) (c : OnBehalf HostCommand) : List ProxyCall :=
  if cfg.isSecurityEnabled && cfg.boundClient != cfg.routingHostId && cfg.boundClient != c.1 then []
  else c.2.proxyCalls c.1

/-- The stub makes the calls for a command. -/
lemma StubCommand.onMessage_bytes (cfg : StubConfig) (c : OnBehalf ApplicationCommand)
    (m : List UInt8) (h : ApplicationCommand.bytes c = some m) :
    onMessage cfg m = .ok (cfg.calls c) := by
  by_cases hskip : cfg.isSecurityEnabled && cfg.boundClient != c.1
  · obtain ⟨type, payload, rfl, hpayload⟩ := ApplicationCommand.exists_payload h
    rw [onMessage_commandOf cfg hpayload.lt, if_pos hskip, StubConfig.calls, if_pos hskip]
    rfl
  · rw [StubConfig.calls, if_neg hskip]
    exact onMessage_command hskip h

/-- The proxy makes the calls for a command of another application. -/
lemma ProxyCommand.onMessage_bytes (cfg : ProxyConfig) (c : OnBehalf ApplicationCommand)
    (m : List UInt8) (h : ApplicationCommand.bytes c = some m) :
    onMessage cfg m = .ok (cfg.calls c) := by
  rw [ProxyConfig.calls]
  split_ifs with hskip
  · obtain ⟨type, payload, rfl, -⟩ := ApplicationCommand.exists_payload h
    exact (onMessage_header cfg).trans (if_pos hskip)
  · exact onMessage_command hskip h

/-- The proxy makes the calls for a command of the routing manager. -/
lemma ProxyCommand.onMessage_hostBytes (cfg : ProxyConfig) (c : OnBehalf HostCommand)
    (m : List UInt8) (h : HostCommand.bytes c = some m) :
    onMessage cfg m = .ok (cfg.hostCalls c) := by
  obtain rfl := Option.some.inj h
  rw [ProxyConfig.hostCalls]
  split_ifs with hskip
  · obtain ⟨type, payload, hm, -⟩ := c.2.exists_payload c.1
    rw [hm]
    exact (onMessage_header cfg).trans (if_pos hskip)
  · exact onMessage_hostCommand hskip c.2

/-- **Commands are carried out as they were sent**: on a local connection whose stream is cut anywhere,
the routing manager makes exactly the calls that the applications ask for, in order and only for the
client that the connection is bound to; so does an application for the commands of another one and for
those of the routing manager.

**Proof sketch.** The lowest byte of the size of such a command is none of those by which an end tag
could be found too early, so the commands arrive as they are. Each of them is taken apart into what it
was built from. -/
theorem calls_run {max shrink : UInt32} {cs : List (List UInt8)} :
    (∀ (cfg : StubConfig) (sent : List (OnBehalf ApplicationCommand)),
      (∀ m ∈ sent.filterMap ApplicationCommand.bytes, m.length ≤ max.toNat + 7) →
      IsCut max shrink (sent.filterMap ApplicationCommand.bytes) cs →
      (received max shrink cs).mapM (StubCommand.onMessage cfg) =
        .ok (sentCalls ApplicationCommand.bytes cfg.calls sent)) ∧
    (∀ (cfg : ProxyConfig) (sent : List (OnBehalf ApplicationCommand)),
      (∀ m ∈ sent.filterMap ApplicationCommand.bytes, m.length ≤ max.toNat + 7) →
      IsCut max shrink (sent.filterMap ApplicationCommand.bytes) cs →
      (received max shrink cs).mapM (ProxyCommand.onMessage cfg) =
        .ok (sentCalls ApplicationCommand.bytes cfg.calls sent)) ∧
    (∀ (cfg : ProxyConfig) (sent : List (OnBehalf HostCommand)),
      (∀ m ∈ sent.filterMap HostCommand.bytes, m.length ≤ max.toNat + 7) →
      IsCut max shrink (sent.filterMap HostCommand.bytes) cs →
      (received max shrink cs).mapM (ProxyCommand.onMessage cfg) =
        .ok (sentCalls HostCommand.bytes cfg.hostCalls sent)) := by
  have hplain (c : OnBehalf ApplicationCommand) (m : List UInt8)
      (h : ApplicationCommand.bytes c = some m) :
      ∃ type client payload, m = commandOf type client payload ∧ Unmistakable payload := by
    obtain ⟨type, payload, hm⟩ := ApplicationCommand.exists_payload h
    exact ⟨type, c.1, payload, hm⟩
  have hhost (c : OnBehalf HostCommand) (m : List UInt8) (h : HostCommand.bytes c = some m) :
      ∃ type client payload, m = commandOf type client payload ∧ Unmistakable payload := by
    obtain rfl := Option.some.inj h
    obtain ⟨type, payload, hm⟩ := c.2.exists_payload c.1
    exact ⟨type, c.1, payload, hm⟩
  exact ⟨fun cfg sent hmax hcut => received_mapM hplain (StubCommand.onMessage_bytes cfg) hmax hcut,
    fun cfg sent hmax hcut => received_mapM hplain (ProxyCommand.onMessage_bytes cfg) hmax hcut,
    fun cfg sent hmax hcut => received_mapM hhost (ProxyCommand.onMessage_hostBytes cfg) hmax hcut⟩

/-- A run of an application: it registers, requests two services of which the policy allows one, and
tries to offer a service on behalf of another client. -/
def requestRun : List (OnBehalf ApplicationCommand) :=
  [(0x1343, .registerApplication),
    (0x1343, .requestServices [⟨(0x1234, 1), ⟨2, 3⟩, false⟩, ⟨(0x1235, 1), ⟨2, 3⟩, true⟩]),
    (0x1344, .offerService ⟨0x1234, 1, 2, 3⟩)]

/-- A stub that is bound to the application. -/
def requestStub : StubConfig := ⟨true, fun _ service _ => service == 0x1234, fun _ _ => true, 0x1343, 0⟩

/-- The bytes of the run, cut twice in the middle of a command. -/
def requestChunks : List (List UInt8) :=
  let stream := ((requestRun.filterMap ApplicationCommand.bytes).map LocalClient.sendQueued).flatten
  [stream.take 19, (stream.drop 19).take 15, (stream.drop 34).take 16, stream.drop 50]

/-- The one request that is allowed is handled, and nothing is offered for the other client. -/
theorem calls_run_request :
    (received messageSizeUnlimited 5 requestChunks).mapM (StubCommand.onMessage requestStub) =
      .ok [[.updateRegistration 0x1343 true],
        [.requestService 0x1343 0x1234 1 2 3 false, .handleRequests 0x1343], []] := by
  refine (calls_run.1 requestStub requestRun (by decide) ⟨?_, by decide⟩).trans (by decide)
  exact ⟨⟨by decide, by decide⟩, ⟨by decide, by decide⟩, ⟨by decide, by decide⟩,
    ⟨by decide, by decide⟩, trivial⟩

end Vsomeip
