import Vsomeip.Endpoints.Buffer
import Vsomeip.Message.Byteorder

set_option relaxedAutoImplicit false
set_option autoImplicit false

/-!
# Receiving over TCP

`tcp_server_endpoint_impl::connection::receive_cbk` and `tcp_client_endpoint_impl::receive_cbk`. Both
run through the pending bytes, hand every complete SOME/IP message to the host and keep the rest
for the next call. They differ in the order of their branches, in which magic cookie they look for
and in what they do when they are lost: the server looks for a cookie before it looks at the size
of an incomplete message, the client after it; the server closes the connection, the client
restarts it.

## Main definitions

* `Vsomeip.getMessageSize` — `utility::get_message_size`.
* `Vsomeip.findMagicCookie` — `endpoint_impl::find_magic_cookie`.
* `Vsomeip.TcpReceiver` — the state of a receiving TCP endpoint.
* `Vsomeip.TcpServer.receiveCbk`, `Vsomeip.TcpClient.receiveCbk` — the callbacks.
-/

namespace Vsomeip

/-- `VSOMEIP_SOMEIP_HEADER_SIZE`. -/
def someipHeaderSize : ℕ := 8

/-- `CLIENT_COOKIE`. -/
def clientCookie : List UInt8 :=
  [0xFF, 0xFF, 0x00, 0x00, 0x00, 0x00, 0x00, 0x08, 0xDE, 0xAD, 0xBE, 0xEF, 0x01, 0x01, 0x01, 0x00]

/-- `SERVICE_COOKIE`. -/
def serviceCookie : List UInt8 :=
  [0xFF, 0xFF, 0x80, 0x00, 0x00, 0x00, 0x00, 0x08, 0xDE, 0xAD, 0xBE, 0xEF, 0x01, 0x01, 0x02, 0x00]

/-- `utility::get_message_size` on the bytes `data`, of which `size` are received. The sum is one
of 32-bit numbers. -/
def getMessageSize (data : List UInt8) (size : ℕ) : UInt32 :=
  if someipHeaderSize ≤ size then
    8 + bytesToLong (data.getD 4 0) (data.getD 5 0) (data.getD 6 0) (data.getD 7 0)
  else 0

/-- `endpoint_impl::find_magic_cookie`: the first offset at which the cookie stands with at least
one byte behind it, or the largest 32-bit number. -/
def findMagicCookie (cookie data : List UInt8) (size : ℕ) : ℕ :=
  ((List.range (size - 16)).find? fun offset => (data.drop offset).take 16 == cookie).getD
    0xFFFFFFFF

/-- `utility::is_request` on the byte of a message type. -/
def isRequest (type : UInt8) : Bool := type < 0x02 || (type ≥ 0x40 && type ≤ 0x41)

/-- What a receiving TCP endpoint does to the outside: it hands a message or an error to its host,
the server remembers the remote of a request by its client and session, and a connection is given
up (closed by the server, restarted by the client). -/
inductive TcpEvent
  | onMessage (bytes : List UInt8)
  | onError (bytes : List UInt8)
  | request (client session : UInt16)
  | giveUp
deriving DecidableEq, Repr

/-- The messages among the events. -/
def TcpEvent.messages (events : List TcpEvent) : List (List UInt8) :=
  events.filterMap fun
    | .onMessage bytes => some bytes
    | _ => none

/-- The state of a receiving TCP endpoint: its buffer, whether magic cookies are enabled, and
whether it waits for the socket. -/
structure TcpReceiver where
  recv : RecvBuffer
  magicCookiesEnabled : Bool
  receiving : Bool

/-- The variables of the loop in `receive_cbk`. -/
structure TcpLoop where
  recv : RecvBuffer
  magicCookiesEnabled : Bool
  iterationGap : ℕ
  events : List TcpEvent

/-- How a round of the loop ends: with `has_full_message` set, without it, or by a return. -/
inductive TcpRound
  | again
  | last
  | stop
deriving DecidableEq, Repr

namespace TcpLoop

variable (cfg : RecvConfig) (l : TcpLoop)

/-- The bytes from the iteration gap on. -/
def front : List UInt8 := l.recv.buffer.drop l.iterationGap

/-- `is_magic_cookie(its_iteration_gap)` for the cookie the endpoint looks for. -/
def isMagicCookie (cookie : List UInt8) : Bool := l.front.take 16 == cookie

/-- Append events. -/
def emit (events : List TcpEvent) : TcpLoop := { l with events := l.events ++ events }

/-- Take `n` bytes from the front. -/
def skip (n : ℕ) : TcpLoop :=
  { l with
    recv := { l.recv with size := l.recv.size - n }
    iterationGap := l.iterationGap + n }

/-- The branch for a complete message: a cookie enables magic cookies; with cookies enabled a
message with a cookie inside is cut off in front of it and not forwarded. `requests` are the events
of the server for a forwarded message, and `lost` the ones for a message that is cut off. -/
def fullMessage (cookie : List UInt8) (requests lost : List TcpEvent)
    (currentMessageSize : ℕ) : TcpLoop :=
  let isCookie := l.isMagicCookie cookie
  let l := if isCookie then { l with magicCookiesEnabled := true } else l
  let itsOffset := findMagicCookie cookie l.front l.recv.size
  let message := TcpEvent.onMessage (l.front.take currentMessageSize)
  let cut := ¬ isCookie ∧ l.magicCookiesEnabled ∧ itsOffset < currentMessageSize
  let l := if cut then l.emit lost
    else if l.magicCookiesEnabled ∧ isCookie then l.emit requests
    else l.emit (requests ++ [message])
  let l := { l with recv := { l.recv.calculateShrinkCount cfg with missingCapacity := 0 } }
  l.skip (if cut then itsOffset else currentMessageSize)

/-- Drop everything and return to the initial size, for a message that exceeds the maximum. -/
def reset : TcpLoop :=
  { l with recv := { l.recv.resize cfg.initialSize with size := 0 } }

/-- Note how much is missing. -/
def miss (n : UInt32) : TcpLoop := { l with recv := { l.recv with missingCapacity := n } }

/-- The test that a message is larger than the endpoint allows. -/
def exceeds (currentMessageSize : UInt32) : Bool :=
  cfg.maxMessageSize ≠ messageSizeUnlimited && currentMessageSize > cfg.maxMessageSize

end TcpLoop

/-- The loop of a `receive_cbk` with the given round: it goes on while a round ends with
`has_full_message` and bytes are pending. The flag says whether the loop was left by a return. -/
def tcpLoop (round : TcpLoop → TcpLoop × TcpRound) : ℕ → TcpLoop → TcpLoop × Bool
  | 0, l => (l, false)
  | fuel + 1, l =>
    match round l with
    | (l, .again) => if l.recv.size ≠ 0 then tcpLoop round fuel l else (l, false)
    | (l, .last) => (l, false)
    | (l, .stop) => (l, true)

/-- The part of a `receive_cbk` for received bytes: the loop, the shift and the next `receive`. Every
round takes at least one byte or is the last one, so the pending bytes bound the rounds. -/
def tcpReceived (cfg : RecvConfig) (round : TcpLoop → TcpLoop × TcpRound) (r : TcpReceiver)
    (bytes : List UInt8) : TcpReceiver × List TcpEvent :=
  let recv := r.recv.store bytes
  let (l, stopped) := tcpLoop round (recv.size + 1)
    { recv, magicCookiesEnabled := r.magicCookiesEnabled, iterationGap := 0, events := [] }
  if stopped then
    ({ recv := l.recv, magicCookiesEnabled := l.magicCookiesEnabled, receiving := false }, l.events)
  else
    let recv := if l.iterationGap ≠ 0 then l.recv.shift l.iterationGap else l.recv
    ({ recv := recv.receive cfg, magicCookiesEnabled := l.magicCookiesEnabled, receiving := true },
      l.events)

/-! ## The server -/

namespace TcpServer

/-- The events for a forwarded message: a request is remembered by its client and session, which
are copied as they stand. -/
def requests (front : List UInt8) : List TcpEvent :=
  if isRequest (front.getD 14 0) then
    [.request (bytesToWord (front.getD 9 0) (front.getD 8 0))
      (bytesToWord (front.getD 11 0) (front.getD 10 0))]
  else []

/-- What the server does when it looks for a cookie in incomplete data: it resyncs at the cookie if
there is one. -/
def resync (l : TcpLoop) : Option TcpLoop :=
  let itsOffset := findMagicCookie clientCookie l.front l.recv.size
  if l.magicCookiesEnabled ∧ l.recv.size > 0 ∧ itsOffset < l.recv.size then
    let error (l : TcpLoop) : List TcpEvent :=
      if l.isMagicCookie clientCookie then [] else [.onError (l.front.take l.recv.size)]
    let l' := (l.emit (error l)).skip itsOffset
    some (l'.emit (error l'))
  else none

/-- One round of the loop of `connection::receive_cbk`. -/
def round (cfg : RecvConfig) (l : TcpLoop) : TcpLoop × TcpRound :=
  let currentMessageSize := getMessageSize l.front l.recv.size
  if currentMessageSize.toNat > someipHeaderSize ∧ currentMessageSize.toNat ≤ l.recv.size then
    (l.fullMessage cfg clientCookie (requests l.front)
      [.onError (l.front.take l.recv.size)] currentMessageSize.toNat, .again)
  else match resync l with
    | some l => (l, .again)
    | none =>
      if TcpLoop.exceeds cfg currentMessageSize then
        (l.reset cfg, if l.magicCookiesEnabled then .last else .stop)
      else if currentMessageSize.toNat > l.recv.size then
        (l.miss (currentMessageSize - UInt32.ofNat l.recv.size), .last)
      else if someipHeaderSize > l.recv.size then
        (l.miss (8 - UInt32.ofNat l.recv.size), .last)
      else (l.emit [.giveUp], .stop)

/-- `tcp_server_endpoint_impl::connection::receive_cbk`. A call without an error and without bytes
does not wait for the socket again. -/
def receiveCbk (cfg : RecvConfig) (r : TcpReceiver) (error : ErrorCode) (bytes : List UInt8) :
    TcpReceiver × List TcpEvent :=
  if error = .success ∧ bytes ≠ [] then tcpReceived cfg (round cfg) r bytes
  else
    ({ r with receiving := false },
      if error = .eof ∨ error = .connectionReset ∨ error = .timedOut then [.giveUp] else [])

/-- `connection::create` and `connection::start`: the initial size is the one of two headers and
two cookies. -/
def start (cfg : RecvConfig) (magicCookiesEnabled : Bool) : TcpReceiver :=
  { recv := (RecvBuffer.init cfg).receive cfg, magicCookiesEnabled, receiving := true }

/-- `recv_buffer_size_initial_` of a connection. -/
def initialSize : ℕ := someipHeaderSize + 8 + 8 + 8

end TcpServer

/-! ## The client -/

namespace TcpClient

/-- One round of the loop of `tcp_client_endpoint_impl::receive_cbk`. -/
def round (cfg : RecvConfig) (l : TcpLoop) : TcpLoop × TcpRound :=
  let currentMessageSize := getMessageSize l.front l.recv.size
  if currentMessageSize.toNat > someipHeaderSize ∧ currentMessageSize.toNat ≤ l.recv.size then
    (l.fullMessage cfg serviceCookie [] [] currentMessageSize.toNat, .again)
  else if TcpLoop.exceeds cfg currentMessageSize then
    (l.reset cfg, if l.magicCookiesEnabled then .last else .stop)
  else if currentMessageSize.toNat > l.recv.size then
    (l.miss (currentMessageSize - UInt32.ofNat l.recv.size), .last)
  else if someipHeaderSize > l.recv.size then
    (l.miss (8 - UInt32.ofNat l.recv.size), .last)
  else if l.magicCookiesEnabled ∧ l.recv.size > 0 then
    let itsOffset := findMagicCookie serviceCookie l.front l.recv.size
    if itsOffset < l.recv.size then (l.skip itsOffset, .again) else (l, .last)
  else (l.emit [.giveUp], .stop)

/-- `tcp_client_endpoint_impl::receive_cbk`. The missing capacity is a local variable here and
starts at zero. After errors that mean the end of the connection the socket is closed; after others,
and when no bytes came, the client waits again. -/
def receiveCbk (cfg : RecvConfig) (r : TcpReceiver) (error : ErrorCode) (bytes : List UInt8) :
    TcpReceiver × List TcpEvent :=
  if error = .operationAborted then ({ r with receiving := false }, [])
  else if error = .success ∧ bytes ≠ [] then
    tcpReceived cfg (round cfg) { r with recv := { r.recv with missingCapacity := 0 } } bytes
  else if error = .connectionReset ∨ error = .eof ∨ error = .timedOut ∨ error = .badDescriptor then
    ({ r with receiving := false }, [])
  else ({ r with recv := { r.recv with missingCapacity := 0 }.receive cfg, receiving := true }, [])

/-- `tcp_client_endpoint_impl::receive()` on a new connection. -/
def start (cfg : RecvConfig) (magicCookiesEnabled : Bool) : TcpReceiver :=
  { recv := (RecvBuffer.init cfg).receive cfg, magicCookiesEnabled, receiving := true }

/-- `recv_buffer_size_initial_` of a client endpoint. -/
def initialSize : ℕ := someipHeaderSize

end TcpClient

end Vsomeip
