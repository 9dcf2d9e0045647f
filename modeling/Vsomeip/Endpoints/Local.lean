import Vsomeip.Endpoints.Buffer
import Vsomeip.Message.Byteorder

set_option relaxedAutoImplicit false
set_option autoImplicit false

/-!
# Receiving local commands

`local_server_endpoint_impl::connection::receive_cbk`. On a local socket a command is sent between
a start and an end tag of four bytes each. The receiver looks for a start tag, reads the size of
the command from the bytes behind it, and looks for an end tag from the last byte of the command
on. If the size is not there yet, it looks for an end tag from the first byte of the command on.

## Main definitions

* `Vsomeip.LocalServer.scan` — the loops that look for a tag.
* `Vsomeip.LocalServer.round` — one round of the loop of `receive_cbk`.
* `Vsomeip.LocalServer.receiveCbk` — the callback.
* `Vsomeip.LocalClient.sendQueued` — what `local_client_endpoint_impl::send_queued` puts on the wire.
-/

namespace Vsomeip

/-- `its_start_tag`. -/
def startTag : List UInt8 := [0x67, 0x37, 0x6D, 0x07]

/-- `its_end_tag`. -/
def endTag : List UInt8 := [0x07, 0x6D, 0x37, 0x67]

/-- The bytes that `local_client_endpoint_impl::send_queued` writes for the front of its queue. -/
def LocalClient.sendQueued (command : List UInt8) : List UInt8 := startTag ++ (command ++ endTag)

namespace LocalServer

/-- `VSOMEIP_COMMAND_HEADER_SIZE`. -/
def commandHeaderSize : ℕ := 7

/-- `recv_buffer_size_initial_` of a connection: a command header, an instance, two flags and two
tags. -/
def initialSize : ℕ := commandHeaderSize + 0 + (2 + 1 + 1) + 8

/-- The constants of a connection. -/
def config (maxMessageSize shrinkThreshold : UInt32) : RecvConfig :=
  { initialSize, shrinkThreshold, maxMessageSize, initialSize_pos := by decide }

/-- A tag stands at an offset of the buffer. -/
def tagAt (buffer tag : List UInt8) (pos : ℕ) : Prop := (buffer.drop pos).take 4 = tag

instance (buffer tag : List UInt8) (pos : ℕ) : Decidable (tagAt buffer tag pos) := by
  unfold tagAt; infer_instance

/-- The loops that look for a tag from `pos` on, as long as four bytes are there in front of
`limit`. -/
def scan (buffer tag : List UInt8) (limit : ℕ) : ℕ → ℕ → ℕ
  | 0, pos => pos
  | fuel + 1, pos =>
    if pos + 3 < limit ∧ ¬ tagAt buffer tag pos then scan buffer tag limit fuel (pos + 1) else pos

/-- The size field of the command at an offset, which stands in little-endian order in bytes three
to six. -/
def commandSize (buffer : List UInt8) (start : ℕ) : UInt32 :=
  bytesToLong (buffer.getD (start + 6) 0) (buffer.getD (start + 5) 0) (buffer.getD (start + 4) 0)
    (buffer.getD (start + 3) 0)

/-- How a round of the loop ends: a command was found and the next round starts at `gap`, the rest
has to wait, or the connection is given up. -/
inductive Round
  | found (recv : RecvBuffer) (gap : ℕ) (command : List UInt8)
  | wait (recv : RecvBuffer)
  | abort (recv : RecvBuffer)

/-- What is noted as missing when a command is not complete. Fifteen bytes of a command are not
counted in its size: the tags, the command byte, the client and the size itself. -/
def missing (recv : RecvBuffer) (itsCommandSize : UInt32) : RecvBuffer :=
  if itsCommandSize ≠ 0 ∧ (itsCommandSize + 15).toNat > recv.size then
    { recv with missingCapacity := itsCommandSize + 15 - UInt32.ofNat recv.size }
  else if recv.size < 11 then
    { recv with missingCapacity := 11 - UInt32.ofNat recv.size }
  else recv

/-- The end of a round, behind the search for the end tag: a command that is complete is handed to
the host; otherwise what is missing is noted, and the rest is copied to the front if it does not
stand there. -/
def finish (cfg : RecvConfig) (recv : RecvBuffer) (gap itsStart : ℕ) (itsCommandSize : UInt32)
    (itsEnd : ℕ) : Round :=
  let limit := recv.size + gap
  let recv' := if limit < itsEnd + 4 ∨ ¬ tagAt recv.buffer endTag itsEnd then
      missing recv itsCommandSize
    else recv
  if itsEnd + 3 < limit then
    .found
      { recv'.calculateShrinkCount cfg with
        size := recv.size - (itsEnd + 4 - gap), missingCapacity := 0 }
      (itsEnd + 4) ((recv.buffer.drop itsStart).take ((itsEnd - itsStart) % 2 ^ 32))
  else if gap ≠ 0 then .wait (recv'.shift gap)
  else .wait recv'

/-- A round behind the start tag, for a command that starts at `itsStart`. The size of the command
is zero at the beginning of every round. -/
def roundFrom (cfg : RecvConfig) (recv : RecvBuffer) (gap itsStart : ℕ) : Round :=
  let limit := recv.size + gap
  let hasSize := itsStart + 6 < limit
  let itsCommandSize := if hasSize then commandSize recv.buffer itsStart else 0
  let itsEnd := if hasSize then itsStart + 6 + itsCommandSize.toNat else itsStart
  if itsCommandSize ≠ 0 ∧ cfg.maxMessageSize ≠ messageSizeUnlimited ∧
      itsCommandSize > cfg.maxMessageSize then
    .abort (recv.resize cfg.initialSize)
  else
    finish cfg recv gap itsStart itsCommandSize (scan recv.buffer endTag limit recv.size itsEnd)

/-- One round of the loop of `receive_cbk`, for the pending bytes from `gap` on. A rest of three
bytes is left where it stands. -/
def round (cfg : RecvConfig) (recv : RecvBuffer) (gap : ℕ) : Round :=
  let limit := recv.size + gap
  let itsStart := scan recv.buffer startTag limit recv.size gap
  if itsStart + 3 = limit then .wait recv
  else roundFrom cfg recv gap (itsStart + 4)

/-- The loop of `receive_cbk`: the buffer behind it, whether it was left by a return, and the
commands handed to the host. -/
def loop (cfg : RecvConfig) : ℕ → RecvBuffer → ℕ → RecvBuffer × Bool × List (List UInt8)
  | 0, recv, _ => (recv, false, [])
  | fuel + 1, recv, gap =>
    match round cfg recv gap with
    | .found recv' gap' command =>
      if recv'.size > 0 then
        let (recv'', aborted, commands) := loop cfg fuel recv' gap'
        (recv'', aborted, command :: commands)
      else (recv', false, [command])
    | .wait recv' => (recv', false, [])
    | .abort recv' => (recv', true, [])

/-- A connection of the local server endpoint. -/
structure Connection where
  recv : RecvBuffer
  receiving : Bool

/-- `connection::receive_cbk`: the connection afterwards and the commands handed to the host. Every
round takes at least four bytes or is the last one, so the pending bytes bound the rounds. -/
def receiveCbk (cfg : RecvConfig) (c : Connection) (error : ErrorCode) (bytes : List UInt8) :
    Connection × List (List UInt8) :=
  if error = .operationAborted then ({ c with receiving := false }, [])
  else
    let (recv, aborted, commands) :=
      if error = .success ∧ bytes ≠ [] then
        loop cfg ((c.recv.store bytes).size + 1) (c.recv.store bytes) 0
      else (c.recv, false, [])
    if aborted ∨ error = .eof ∨ error = .connectionReset ∨ error = .badDescriptor then
      ({ recv, receiving := false }, commands)
    else ({ recv := recv.receive cfg, receiving := true }, commands)

/-- `connection::create` and `connection::start`. -/
def start (cfg : RecvConfig) : Connection :=
  { recv := (RecvBuffer.init cfg).receive cfg, receiving := true }

end LocalServer

end Vsomeip
