import Vsomeip.Lib.Runs
import Vsomeip.Endpoints.SendQueue
import Vsomeip.Endpoints.Tcp

set_option relaxedAutoImplicit false
set_option autoImplicit false

/-!
# Sending on client endpoints

`client_endpoint_impl` and the parts of `udp_client_endpoint_impl`, `tcp_client_endpoint_impl` and
`local_client_endpoint_impl` that send: their functions on the send queue, one after the other
under the mutex of the endpoint, and the callbacks of the sockets and timers in any order. The flush
timer is not modelled: `flushCbk` can be called at any time, as `flush` can.

## Main definitions

* `Vsomeip.ClientEndpoint` — the members of a client endpoint that its sending depends on.
* `Vsomeip.ClientEndpoint.send`, `flush`, `sendCbk`, `connectCbk`, `stop`, `restart` — its
  functions.
* `Vsomeip.ClientAction`, `Vsomeip.ClientEndpoint.step` — the endpoint as a state machine.
-/

namespace Vsomeip

/-- The protocols that `client_endpoint_impl` is instantiated with. -/
inductive Protocol
  | udp
  | tcp
  | localStream
deriving DecidableEq, Repr

/-- `cei_state_e`. -/
inductive CeiState
  | closed
  | connecting
  | established
deriving DecidableEq, Repr

/-- The constants of a client endpoint. -/
structure ClientConfig extends SendConfig where
  protocol : Protocol

/-- The members of a client endpoint, and the time of the steady clock in nanoseconds. -/
structure ClientEndpoint extends SendQueue where
  sendingBlocked : Bool
  state : CeiState
  wasNotConnected : Bool
  hasEnabledMagicCookies : Bool
  lastCookieSent : ℤ
  now : ℤ
deriving DecidableEq, Repr

namespace ClientEndpoint

/-- A new endpoint. The last cookie is taken to be eleven seconds old. -/
def init (now : ℤ) : ClientEndpoint :=
  { SendQueue.empty with
    sendingBlocked := false, state := .closed, wasNotConnected := false,
    hasEnabledMagicCookies := false, lastCookieSent := now - 11000000000, now }

variable (cfg : ClientConfig) (e : ClientEndpoint)

/-- `enable_magic_cookies`: only TCP endpoints support them. -/
def enableMagicCookies : ClientEndpoint :=
  { e with hasEnabledMagicCookies := cfg.protocol = .tcp }

/-- `tcp_client_endpoint_impl::send_magic_cookie` on the front of the queue. The room in the buffer
is a difference of 64-bit numbers. -/
def sendMagicCookie : ClientEndpoint :=
  match e.queue with
  | [] => e
  | buffer :: rest =>
    if cfg.maxMessageSize = messageSizeUnlimited ∨
        16 ≤ (cfg.maxMessageSize.toNat + 2 ^ 64 - buffer.length) % 2 ^ 64 then
      { e with queue := (clientCookie ++ buffer) :: rest, queueSize := e.queueSize + 16 }
    else e

/-- A magic cookie is due: more than ten seconds have passed since the last one, in whole
milliseconds. -/
def cookieDue : Prop :=
  cfg.protocol = .tcp ∧ e.hasEnabledMagicCookies ∧ (e.now - e.lastCookieSent).tdiv 1000000 > 10000

instance : Decidable (cookieDue cfg e) := by
  unfold cookieDue; infer_instance

/-- `send_queued` of the three endpoints: a write of the front of the queue is started. The TCP
endpoint puts a magic cookie in front of it when one is due. -/
def sendQueued : ClientEndpoint :=
  if e.queue = [] then e
  else
    let e' := if cookieDue cfg e then { sendMagicCookie cfg e with lastCookieSent := e.now } else e
    { e' with toSendQueue := e'.toSendQueue.startWrite }

/-- `client_endpoint_impl::send`: a write is started if none was in progress, which is taken from
the queue being empty on entry. -/
def send (data : List UInt8) (flush : Bool) : ClientEndpoint × Bool :=
  if e.sendingBlocked then (e, false)
  else if cfg.TooBig data then (e, false)
  else
    let (q, accepted) := e.toSendQueue.enqueue cfg.toSendConfig data flush
    let e' := { e with toSendQueue := q }
    if ¬ accepted then (e', false)
    else if e.queue = [] ∧ e'.queue ≠ [] then (sendQueued cfg e', true)
    else (e', true)

/-- `client_endpoint_impl::flush`. -/
def flush : ClientEndpoint × Bool :=
  if e.packetizer ≠ [] then
    let e' := { e with toSendQueue := e.toSendQueue.pushPacketizer }
    (if e'.queue.length = 1 then sendQueued cfg e' else e', true)
  else (e, false)

/-- `client_endpoint_impl::flush_cbk`. -/
def flushCbk (error : ErrorCode) : ClientEndpoint :=
  if error = .success then (flush cfg e).1 else e

/-- `connect` of the three endpoints. The socket of the TCP and the local endpoint is opened first,
which may fail. -/
def connect (opened : Bool) : ClientEndpoint :=
  if cfg.protocol = .udp ∨ opened then { e with state := .connecting } else e

/-- `client_endpoint_impl::connect_cbk`. -/
def connectCbk (error : ErrorCode) : ClientEndpoint :=
  if error = .operationAborted then e
  else if error ≠ .success ∧ error ≠ .alreadyConnected then
    if e.state ≠ .established then { e with state := .closed } else e
  else if e.queue ≠ [] ∧ e.wasNotConnected then sendQueued cfg { e with wasNotConnected := false }
  else e

/-- `client_endpoint_impl::wait_connect_cbk`. -/
def waitConnectCbk (error : ErrorCode) (opened : Bool) : ClientEndpoint :=
  if error = .success then connect cfg e opened else e

/-- The queue is cleared, and its size with it. -/
def clearQueue : ClientEndpoint := { e with queue := [], queueSize := 0 }

/-- `client_endpoint_impl::send_cbk`. -/
def sendCbk (error : ErrorCode) (opened : Bool) : ClientEndpoint :=
  match error with
  | .success =>
    if e.queue ≠ [] then sendQueued cfg { e with toSendQueue := e.toSendQueue.popFront } else e
  | .brokenPipe =>
    let e' := if e.sendingBlocked then clearQueue e else e
    connect cfg { e' with state := .closed, wasNotConnected := true } opened
  | .notConnected | .badDescriptor =>
    connect cfg { e with state := .closed, wasNotConnected := true } opened
  | _ => e

/-- `stop`: the local endpoint waits for its queue to become empty instead of clearing it. -/
def stop : ClientEndpoint :=
  match cfg.protocol with
  | .localStream => { e with sendingBlocked := true }
  | _ => { clearQueue e with sendingBlocked := true }

/-- `restart` of the three endpoints. The UDP endpoint clears its queue, but not the size of it. -/
def restart : ClientEndpoint :=
  if e.state = .connecting then e
  else
    match cfg.protocol with
    | .udp => { e with state := .connecting, queue := [] }
    | .tcp => { clearQueue e with state := .connecting }
    | .localStream => { clearQueue e with state := .connecting, sendingBlocked := false }

/-- `set_connected`. -/
def setConnected (connected : Bool) : ClientEndpoint :=
  { e with state := if connected then .established else .closed }

end ClientEndpoint

/-- What happens to a client endpoint: a call of one of its functions, the callback of the `i`-th
outstanding write, or the passing of time. -/
inductive ClientAction
  | send (data : List UInt8) (flush : Bool)
  | flush
  | flushCbk (error : ErrorCode)
  | sendCbk (i : ℕ) (error : ErrorCode) (opened : Bool)
  | connectCbk (error : ErrorCode)
  | waitConnectCbk (error : ErrorCode) (opened : Bool)
  | stop
  | restart
  | setConnected (connected : Bool)
  | enableMagicCookies
  | tick (nanoseconds : ℕ)

open ClientEndpoint in
/-- A client endpoint as a state machine. There is no callback without an outstanding write. -/
def ClientEndpoint.step (cfg : ClientConfig) (e : ClientEndpoint) : ClientAction → ClientEndpoint
  | .send data flush => (send cfg e data flush).1
  | .flush => (flush cfg e).1
  | .flushCbk error => flushCbk cfg e error
  | .sendCbk i error opened =>
    if i < e.writes.length then
      let q := if error = .success then e.toSendQueue.complete i else e.toSendQueue.fail i
      sendCbk cfg { e with toSendQueue := q } error opened
    else e
  | .connectCbk error => connectCbk cfg e error
  | .waitConnectCbk error opened => waitConnectCbk cfg e error opened
  | .stop => stop cfg e
  | .restart => restart cfg e
  | .setConnected connected => setConnected e connected
  | .enableMagicCookies => enableMagicCookies cfg e
  | .tick nanoseconds => { e with now := e.now + nanoseconds }

end Vsomeip
