import Vsomeip.Lib.Channel
import Vsomeip.Endpoints.PacketizerOrder
import Vsomeip.Endpoints.TcpFraming

set_option relaxedAutoImplicit false
set_option autoImplicit false

/-!
# A TCP client and its server

A TCP client endpoint sends to a TCP server endpoint, with magic cookies disabled. The socket transmits
the buffer of a write in pieces, and reports the write when it is transmitted in full; the server gets
the bytes in chunks of its own. A write may fail at any byte. Then the client connects again and writes
the same buffer from its beginning to a new connection, while the rest of the old one may still arrive.

## Main definitions

* `Vsomeip.TcpLink` — the client, the messages that it has accepted, and the connections.
* `Vsomeip.LinkAction`, `Vsomeip.TcpLink.step` — what may happen, in any order.
* `Vsomeip.TcpLink.Inv` — the invariant of the link.

## Main results

* `Vsomeip.ClientEndpoint.step_frame` — what a step of the client leaves alone.
* `Vsomeip.TcpLink.Inv.step` — every step keeps the invariant.
* `Vsomeip.TcpLink.delivered_run` — what the server delivers.
-/

namespace Vsomeip

namespace ClientEndpoint

variable {cfg : ClientConfig} {e : ClientEndpoint}

/-! ## What a step of the client leaves alone -/

/-- Without cookies a write is all that is started. -/
lemma sendQueued_of_not_sendsCookies (h : sendsCookies cfg e = false) :
    sendQueued cfg e = { e with toSendQueue := e.toSendQueue.startWrite } := by
  have hdue : ¬ cookieDue cfg e := fun hdue => by
    simp [sendsCookies, hdue.1, hdue.2.1] at h
  rw [sendQueued]
  split_ifs with hempty
  · rw [SendQueue.startWrite, hempty]
  · rfl

/-- Cookies stay as they are unless they are enabled. -/
lemma sendsCookies_step (cfg : ClientConfig) (e : ClientEndpoint) {a : ClientAction}
    (ha : a ≠ .enableMagicCookies) : sendsCookies cfg (step cfg e a) = sendsCookies cfg e := by
  have hwith (e' : ClientEndpoint) (h : e'.hasEnabledMagicCookies = e.hasEnabledMagicCookies) :
      sendsCookies cfg e' = sendsCookies cfg e := by rw [sendsCookies, sendsCookies, h]
  have hqueued (e' : ClientEndpoint) (h : e'.hasEnabledMagicCookies = e.hasEnabledMagicCookies) :
      sendsCookies cfg (sendQueued cfg e') = sendsCookies cfg e :=
    (sendsCookies_sendQueued cfg e').trans (hwith e' h)
  have hconnect (e' : ClientEndpoint) (opened : Bool)
      (h : e'.hasEnabledMagicCookies = e.hasEnabledMagicCookies) :
      sendsCookies cfg (connect cfg e' opened) = sendsCookies cfg e := by
    rw [connect]
    split_ifs <;> exact hwith _ h
  have hflush : sendsCookies cfg (flush cfg e).1 = sendsCookies cfg e := by
    rw [flush]
    split_ifs
    · dsimp only
      split_ifs
      · exact hqueued _ rfl
      · exact hwith _ rfl
    · rfl
  cases a with
  | send data flush =>
    simp only [step, send]
    split_ifs
    · rfl
    · rfl
    · exact hqueued _ rfl
    · exact hwith _ rfl
    · exact hwith _ rfl
  | flush => exact hflush
  | flushCbk error =>
    rw [step, flushCbk]
    split_ifs
    · exact hflush
    · rfl
  | sendCbk i error opened =>
    simp only [step]
    split_ifs with hi hsuccess
    · subst hsuccess
      simp only [sendCbk]
      split_ifs
      · exact hqueued _ rfl
      · exact hwith _ rfl
    · cases error with
      | success => exact absurd rfl hsuccess
      | brokenPipe =>
        simp only [sendCbk]
        split_ifs <;> exact hconnect _ opened rfl
      | notConnected => exact hconnect _ opened rfl
      | badDescriptor => exact hconnect _ opened rfl
      | operationAborted => exact hwith _ rfl
      | eof => exact hwith _ rfl
      | connectionReset => exact hwith _ rfl
      | timedOut => exact hwith _ rfl
      | alreadyConnected => exact hwith _ rfl
      | other => exact hwith _ rfl
    · rfl
  | connectCbk error =>
    rw [step, connectCbk]
    split_ifs
    · rfl
    · exact hwith _ rfl
    · rfl
    · exact hqueued _ rfl
    · rfl
  | waitConnectCbk error opened =>
    rw [step, waitConnectCbk]
    split_ifs
    · exact hconnect _ opened rfl
    · rfl
  | stop => rw [step, stop]; split <;> exact hwith _ rfl
  | restart =>
    rw [step, restart]
    split_ifs
    · rfl
    · split <;> exact hwith _ rfl
  | setConnected connected => exact hwith _ rfl
  | enableMagicCookies => exact absurd rfl ha
  | tick nanoseconds => exact hwith _ rfl

/-- Neither a write nor a connection is reported to the endpoint, and it is not stopped. -/
def Plain : ClientAction → Prop
  | .send _ _ | .flush | .flushCbk _ | .waitConnectCbk _ _ | .setConnected _ | .tick _ => True
  | _ => False

/-- What a plain step leaves alone: what is written, and a queue that is not empty, to which only
something is appended. -/
lemma step_frame (hblocked : e.sendingBlocked = false) (hcookies : sendsCookies cfg e = false)
    {a : ClientAction} (ha : Plain a) :
    (step cfg e a).written = e.written ∧
      (e.queue ≠ [] → (step cfg e a).writes = e.writes ∧
        ∃ pushed, (step cfg e a).queue = e.queue ++ pushed) := by
  have hqueued (q : SendQueue) : (sendQueued cfg { e with toSendQueue := q }).written = q.written := by
    rw [sendQueued_of_not_sendsCookies (e := { e with toSendQueue := q }) hcookies]
    change q.startWrite.written = q.written
    rw [SendQueue.startWrite]
    split <;> rfl
  have hsame : e.written = e.written ∧ (e.queue ≠ [] → e.writes = e.writes ∧
      ∃ pushed, e.queue = e.queue ++ pushed) :=
    ⟨rfl, fun _ => ⟨rfl, [], (List.append_nil _).symm⟩⟩
  have hflush : (flush cfg e).1.written = e.written ∧
      (e.queue ≠ [] → (flush cfg e).1.writes = e.writes ∧
        ∃ pushed, (flush cfg e).1.queue = e.queue ++ pushed) := by
    rw [flush]
    split_ifs with hpacketizer
    · dsimp only
      split_ifs with hone
      · refine ⟨hqueued _, fun hne => absurd ?_ hne⟩
        refine List.eq_nil_of_length_eq_zero ?_
        have hlength : (e.queue ++ [e.packetizer]).length = 1 := hone
        rw [List.length_append, List.length_singleton] at hlength
        omega
      · exact ⟨rfl, fun _ => ⟨rfl, [e.packetizer], rfl⟩⟩
    · exact hsame
  cases a with
  | send data flush =>
    by_cases hbig : cfg.TooBig data
    · have hsend : (send cfg e data flush).1 = e := by simp [send, hblocked, hbig]
      rw [step, hsend]
      exact hsame
    · obtain ⟨hwrites, hwritten, pushed, hqueue⟩ :=
        SendQueue.enqueue_spec cfg.toSendConfig e.toSendQueue data flush
      rw [step, send_of_unblocked hblocked hbig]
      split_ifs with hstart
      · exact ⟨(hqueued _).trans hwritten, fun hne => absurd hstart.2.1 hne⟩
      · exact ⟨hwritten, fun _ => ⟨hwrites, pushed, hqueue⟩⟩
  | flush => exact hflush
  | flushCbk error =>
    rw [step, flushCbk]
    split_ifs
    · exact hflush
    · exact hsame
  | waitConnectCbk error opened =>
    rw [step, waitConnectCbk, connect]
    split_ifs <;> exact hsame
  | setConnected connected => exact hsame
  | tick nanoseconds => exact hsame
  | sendCbk i error opened => exact ha.elim
  | connectCbk error => exact ha.elim
  | stop => exact ha.elim
  | restart => exact ha.elim
  | enableMagicCookies => exact ha.elim

/-- The outstanding write fails: the queue stays as it is. -/
lemma sendCbk_failed (cfg : ClientConfig) (hblocked : e.sendingBlocked = false) {b : List UInt8}
    (hw : e.writes = [b]) {error : ErrorCode} (herror : error ≠ .success) (opened : Bool) :
    (step cfg e (.sendCbk 0 error opened)).toSendQueue = { e.toSendQueue with writes := [] } := by
  have hfail : e.toSendQueue.fail 0 = { e.toSendQueue with writes := [] } := by
    rw [SendQueue.fail, hw]
    rfl
  have hwrites : 0 < e.writes.length := by
    rw [hw]
    exact Nat.one_pos
  simp only [step, if_pos hwrites, if_neg herror, hfail]
  cases error with
  | success => exact absurd rfl herror
  | brokenPipe => simp only [sendCbk, hblocked, Bool.false_eq_true, if_false, connect_toSendQueue]
  | notConnected => simp only [sendCbk, connect_toSendQueue]
  | badDescriptor => simp only [sendCbk, connect_toSendQueue]
  | operationAborted => rfl
  | eof => rfl
  | connectionReset => rfl
  | timedOut => rfl
  | alreadyConnected => rfl
  | other => rfl

/-- The outstanding write is done: its buffer is taken from the queue, and the next one is written. -/
lemma sendCbk_done (hcookies : sendsCookies cfg e = false) {b : List UInt8} {q : List (List UInt8)}
    (hw : e.writes = [b]) (hq : e.queue = b :: q) (opened : Bool) :
    (step cfg e (.sendCbk 0 .success opened)).toSendQueue =
      { e.toSendQueue with
        queue := q, queueSize := e.queueSize - b.length, writes := q.take 1
        written := e.written ++ [b] } := by
  have hdone : (e.toSendQueue.complete 0).popFront = { e.toSendQueue with
      queue := q, queueSize := e.queueSize - b.length, writes := [], written := e.written ++ [b] } := by
    simp [SendQueue.complete, SendQueue.popFront, hq, hw]
  have hne : (e.toSendQueue.complete 0).queue ≠ [] := by
    rw [show (e.toSendQueue.complete 0).queue = b :: q from hq]
    exact List.cons_ne_nil b q
  simp only [step, if_pos (show 0 < e.writes.length by rw [hw]; exact Nat.one_pos), if_true, sendCbk]
  rw [if_pos hne, hdone]
  generalize hnext : ({ e.toSendQueue with
      queue := q, queueSize := e.queueSize - b.length, writes := [], written := e.written ++ [b] } :
        SendQueue) = next
  rw [sendQueued_of_not_sendsCookies (e := { e with toSendQueue := next }) hcookies, ← hnext]
  cases q <;> rfl

end ClientEndpoint

/-! ## The link -/

instance (r : TcpReceiver) (c : List UInt8) : Decidable (r.Accepts c) :=
  inferInstanceAs (Decidable (r.receiving = true ∧ c ≠ [] ∧ c.length ≤ r.recv.offered))

/-- A TCP client with the messages that it has accepted, the number of bytes of the outstanding write
that are transmitted, and its connections, the newest one first. -/
structure TcpLink where
  sender : ClientEndpoint
  accepted : List (List UInt8)
  transmitted : ℕ
  connections : List (Framing.Channel TcpReceiver UInt8 (List UInt8))

/-- What happens to a link: something happens to the client, its socket transmits some bytes of the
outstanding write, or the first bytes that are on the way arrive on the `i`-th connection. -/
inductive LinkAction
  | sender (a : ClientAction)
  | transmit (n : ℕ)
  | arrive (i n : ℕ)

namespace TcpLink

variable (send : SendConfig) (recv : RecvConfig) (l : TcpLink)

/-- A new client. It is not connected yet. -/
def init (now : ℤ) : TcpLink :=
  { sender := ClientEndpoint.init now, accepted := [], transmitted := 0, connections := [] }

/-- A step of the client, with the messages that it accepts. -/
def stepSender (a : ClientAction) : TcpLink :=
  let s := ClientEndpoint.stepAccepted ⟨send, .tcp⟩ (l.sender, l.accepted) a
  { l with sender := s.1, accepted := s.2 }

/-- The buffer of the outstanding write. -/
def writing : List UInt8 := l.sender.writes.headD []

/-- The socket puts `n` more bytes of the outstanding write on the newest connection. -/
def transmit (n : ℕ) : TcpLink :=
  match l.connections with
  | [] => l
  | c :: older =>
    let bytes := (l.writing.drop l.transmitted).take n
    { l with transmitted := l.transmitted + bytes.length, connections := c.put bytes :: older }

/-- The first `n` bytes that are on the way on the `i`-th connection arrive, if the server waits for
them. -/
def arrive (i n : ℕ) : TcpLink :=
  { l with connections := l.connections.modify i fun c =>
      if c.receiver.Accepts (c.inFlight.take n) then c.arrive (TcpServer.step recv) n else c }

/-- A link as a state machine. A write succeeds when its buffer is transmitted in full; when it fails,
what was transmitted of it does not count any more. A connection is a new socket, on which nothing of a
write is transmitted yet. -/
def step : LinkAction → TcpLink
  | .sender (.sendCbk i .success opened) =>
    if l.connections ≠ [] ∧ l.writing.length = l.transmitted then
      { stepSender send l (.sendCbk i .success opened) with
        transmitted := if i < l.sender.writes.length then 0 else l.transmitted }
    else l
  | .sender (.sendCbk i error opened) =>
    { stepSender send l (.sendCbk i error opened) with
      transmitted := if i < l.sender.writes.length then 0 else l.transmitted }
  | .sender (.connectCbk .success) =>
    if l.transmitted = 0 then
      { stepSender send l (.connectCbk .success) with
        connections := .fresh (TcpServer.start recv false) :: l.connections }
    else l
  | .sender a => stepSender send l a
  | .transmit n => transmit l n
  | .arrive i n => arrive recv l i n

/-- Nothing is left to be sent or on the way on a connection. -/
def Quiet (c : Framing.Channel TcpReceiver UInt8 (List UInt8)) : Prop :=
  c.inFlight = [] ∧ l.sender.queue = [] ∧ l.sender.packetizer = []

end TcpLink

/-- The client gets only messages that the server can receive. It is neither stopped nor restarted,
magic cookies stay disabled, and its sockets are not connected before they are opened. -/
def LinkAction.Holds (recv : RecvConfig) : LinkAction → Prop
  | .sender (.send data _) => TcpMessage recv data
  | .sender .enableMagicCookies | .sender (.connectCbk .alreadyConnected) => False
  | .sender a => a.Continues
  | _ => True

namespace TcpLink

variable {send : SendConfig} {recv : RecvConfig} {l : TcpLink}

/-! ## The invariant -/

/-- The bytes that are still to be transmitted. -/
def rest (l : TcpLink) : List UInt8 :=
  (l.sender.queue.flatten ++ l.sender.packetizer).drop l.transmitted

/-- A write is outstanding, or there is nothing to be written. -/
def Live (l : TcpLink) : Prop := l.sender.writes ≠ [] ∨ l.sender.queue = []

/-- A connection carries the accepted messages from some place on, the first one from the beginning. If
it is the newest one, the bytes that are still to be transmitted continue it. -/
def Serves (l : TcpLink) (newest oldest : Prop) (c : Framing.Channel TcpReceiver UInt8 (List UInt8)) :
    Prop :=
  ∃ before p after, Framing.Carries TcpReceiver.Pending id l.accepted before c p after ∧
    (oldest → before = []) ∧ (newest → l.Live → p ++ l.rest = after.flatten)

/-- The invariant of a link. -/
structure Inv (send : SendConfig) (recv : RecvConfig) (l : TcpLink) : Prop where
  ordered : l.sender.Ordered ⟨send, .tcp⟩ l.accepted
  cookies : ClientEndpoint.sendsCookies ⟨send, .tcp⟩ l.sender = false
  valid : ∀ m ∈ l.accepted, TcpMessage recv m
  transmitted : l.transmitted ≤ l.writing.length
  written : l.connections = [] → l.sender.written = []
  serves : ∀ i c, l.connections[i]? = some c → l.Serves (i = 0) (i + 1 = l.connections.length) c

/-- Without cookies the accepted messages are those of the written buffers and those that are still in
the queue and the packetizer. -/
lemma exists_unsent {cfg : SendConfig} {q : SendQueue} {accepted : List (List UInt8)}
    (h : q.InOrder cfg false accepted) :
    ∃ sent unsent, accepted = sent ++ unsent ∧ q.written.flatten = sent.flatten ∧
      q.queue.flatten ++ q.packetizer = unsent.flatten ∧ (q.written = [] → sent = []) := by
  have hflatten {buffers : List (List UInt8)} {mss : List (List (List UInt8))}
      (hpacked : List.Forall₂ (Packed cfg false) buffers mss) :
      buffers.flatten = mss.flatten.flatten := by
    induction hpacked with
    | nil => rfl
    | cons hb _ ih => rw [List.flatten_cons, List.flatten_cons, List.flatten_append, hb.eq_flatten, ih]
  obtain ⟨written, queue, packet, hwritten, hqueue, hpacket, rfl⟩ := h
  refine ⟨written.flatten, queue.flatten ++ packet, by rw [List.append_assoc], hflatten hwritten, ?_,
    fun hnil => ?_⟩
  · rw [hflatten hqueue, hpacket.eq_flatten, List.flatten_append]
  · rw [hnil] at hwritten
    cases hwritten
    rfl

/-- The bytes of a queue without cookies are those of its messages. -/
lemma bytes_eq {cfg : SendConfig} {q : SendQueue} {accepted : List (List UInt8)}
    (h : q.InOrder cfg false accepted) :
    q.written.flatten ++ (q.queue.flatten ++ q.packetizer) = accepted.flatten := by
  obtain ⟨sent, unsent, rfl, hsent, hunsent, -⟩ := exists_unsent h
  rw [hsent, hunsent, List.flatten_append]

/-- A message is not empty. -/
lemma ne_nil_of_tcpMessage {m : List UInt8} (hm : TcpMessage recv m) : m ≠ [] := by
  rintro rfl
  exact absurd hm.full (by decide)

namespace Inv

/-- The queue of the sender is in order. -/
lemma inOrder (h : l.Inv send recv) : l.sender.toSendQueue.InOrder send false l.accepted := by
  have hin := h.ordered.inOrder
  rwa [h.cookies] at hin

/-- A write that is outstanding is that of the front of the queue. -/
lemma writes_cases (h : l.Inv send recv) :
    (l.sender.writes = [] ∧ l.transmitted = 0) ∨
      ∃ b q, l.sender.writes = [b] ∧ l.sender.queue = b :: q ∧ l.writing = b := by
  cases hw : l.sender.writes with
  | nil =>
    have hle := h.transmitted
    rw [writing, hw] at hle
    exact Or.inl ⟨rfl, Nat.le_zero.mp hle⟩
  | cons b ws =>
    obtain ⟨-, b', q, hq, hw'⟩ := h.ordered.front.exists_front (i := 0) (by rw [hw]; simp)
    rw [hw] at hw'
    obtain ⟨rfl, rfl⟩ := List.cons.inj hw'
    exact Or.inr ⟨b, q, rfl, hq, by rw [writing, hw]; rfl⟩

/-- No more is transmitted than there is. -/
lemma transmitted_le (h : l.Inv send recv) :
    l.transmitted ≤ (l.sender.queue.flatten ++ l.sender.packetizer).length := by
  rcases h.writes_cases with ⟨-, h0⟩ | ⟨b, q, -, hq, hb⟩
  · omega
  · have hle := h.transmitted
    rw [hb] at hle
    rw [hq, List.flatten_cons, List.append_assoc, List.length_append]
    omega

/-- A step of the client that leaves alone what is written and a queue that is not empty.

**Proof sketch.** The bytes that are still to be transmitted grow by the messages that are accepted, as
the log does. No write is started on a queue that was not empty. -/
lemma of_frame (h : l.Inv send recv) {e : ClientEndpoint} {ms : List (List UInt8)}
    (hordered : e.Ordered ⟨send, .tcp⟩ (l.accepted ++ ms))
    (hcookies : ClientEndpoint.sendsCookies ⟨send, .tcp⟩ e = false)
    (hms : ∀ m ∈ ms, TcpMessage recv m) (hwritten : e.written = l.sender.written)
    (hframe : l.sender.queue ≠ [] → e.writes = l.sender.writes ∧
      ∃ pushed, e.queue = l.sender.queue ++ pushed) :
    Inv send recv { l with sender := e, accepted := l.accepted ++ ms } := by
  have hrest : rest { l with sender := e, accepted := l.accepted ++ ms } = l.rest ++ ms.flatten := by
    have hin := hordered.inOrder
    rw [hcookies] at hin
    have hbytes := bytes_eq hin
    rw [hwritten, List.flatten_append, ← bytes_eq h.inOrder, List.append_assoc,
      List.append_cancel_left_eq] at hbytes
    simp only [rest]
    rw [hbytes, List.drop_append_of_le_length h.transmitted_le]
  have hlive : Live { l with sender := e, accepted := l.accepted ++ ms } → l.Live := by
    intro hlive
    by_contra hnot
    obtain ⟨hnil, hne⟩ := not_or.mp hnot
    obtain ⟨hwrites, pushed, hqueue⟩ := hframe hne
    rcases hlive with hlive | hlive
    · exact hlive (hwrites.trans (not_not.mp hnil))
    · have hempty : e.queue = [] := hlive
      rw [hqueue, List.append_eq_nil_iff] at hempty
      exact hne hempty.1
  refine ⟨hordered, hcookies, List.forall_mem_append.mpr ⟨h.valid, hms⟩, ?_, fun hnil => ?_,
    fun i c hc => ?_⟩
  · rcases h.writes_cases with ⟨-, h0⟩ | ⟨b, q, -, hq, hb⟩
    · exact h0.le.trans (Nat.zero_le _)
    · obtain ⟨hwrites, -⟩ := hframe (by rw [hq]; exact List.cons_ne_nil b q)
      have hle := h.transmitted
      rwa [writing, ← hwrites] at hle
  · exact hwritten.trans (h.written hnil)
  · obtain ⟨before, p, after, hcarries, holdest, hnewest⟩ := h.serves i c hc
    refine ⟨before, p, after ++ ms, hcarries.append fun m hm => ne_nil_of_tcpMessage (hms m hm),
      holdest, fun hi hl => ?_⟩
    rw [hrest, ← List.append_assoc, hnewest hi (hlive hl), List.flatten_append]

/-- What the callback of a write can do: it fails, and the front stays in the queue, or it is done. -/
lemma sendCbk (h : l.Inv send recv) (i : ℕ) (error : ErrorCode) (opened : Bool)
    (hdone : error = .success → l.connections ≠ [] ∧ l.writing.length = l.transmitted) :
    Inv send recv { stepSender send l (.sendCbk i error opened) with
      transmitted := if i < l.sender.writes.length then 0 else l.transmitted } := by
  have hordered := h.ordered.step (a := .sendCbk i error opened) trivial
  have hcookies := ClientEndpoint.sendsCookies_step ⟨send, .tcp⟩ l.sender
    (a := .sendCbk i error opened) (by simp)
  rw [h.cookies] at hcookies
  have haccepted : ClientEndpoint.acceptedBy ⟨send, .tcp⟩ l.sender (.sendCbk i error opened) = [] := rfl
  rw [haccepted, List.append_nil] at hordered
  have hstep : ({ stepSender send l (.sendCbk i error opened) with
      transmitted := if i < l.sender.writes.length then 0 else l.transmitted } : TcpLink) =
    { l with
      sender := ClientEndpoint.step ⟨send, .tcp⟩ l.sender (.sendCbk i error opened)
      transmitted := if i < l.sender.writes.length then 0 else l.transmitted } := by
    simp only [stepSender, ClientEndpoint.stepAccepted, haccepted, List.append_nil]
  rw [hstep]
  by_cases hi : i < l.sender.writes.length
  · obtain ⟨rfl, b, q, hq, hw⟩ := h.ordered.front.exists_front hi
    have hwriting : l.writing = b := by rw [writing, hw]; rfl
    rw [if_pos hi]
    by_cases hsuccess : error = .success
    · subst hsuccess
      obtain ⟨hconn, hlen⟩ := hdone rfl
      have hqueue := ClientEndpoint.sendCbk_done h.cookies hw hq opened
      have hrest : rest { l with
          sender := ClientEndpoint.step ⟨send, .tcp⟩ l.sender (.sendCbk 0 .success opened)
          transmitted := 0 } = l.rest := by
        simp only [rest, hqueue, hq, List.flatten_cons, List.drop_zero, List.append_assoc]
        rw [← hlen, hwriting, List.drop_left]
      refine ⟨hordered, hcookies, h.valid, Nat.zero_le _, fun hnil => absurd hnil hconn,
        fun i c hc => ?_⟩
      obtain ⟨before, p, after, hcarries, holdest, hnewest⟩ := h.serves i c hc
      refine ⟨before, p, after, hcarries, holdest, fun hi _ => ?_⟩
      rw [hrest]
      exact hnewest hi (Or.inl (by rw [hw]; exact List.cons_ne_nil b []))
    · have hqueue := ClientEndpoint.sendCbk_failed ⟨send, .tcp⟩
        h.ordered.unblocked hw hsuccess opened
      refine ⟨hordered, hcookies, h.valid, Nat.zero_le _, fun hnil => ?_, fun i c hc => ?_⟩
      · rw [hqueue]
        exact h.written hnil
      · -- nothing is written any more on this connection
        obtain ⟨before, p, after, hcarries, holdest, -⟩ := h.serves i c hc
        refine ⟨before, p, after, hcarries, holdest, fun _ hlive => ?_⟩
        simp only [Live, hqueue, hq] at hlive
        simp at hlive
  · have hsame : ClientEndpoint.step ⟨send, .tcp⟩ l.sender (.sendCbk i error opened) = l.sender := by
      simp only [ClientEndpoint.step, if_neg hi]
    rw [if_neg hi, hsame]
    exact h

/-- A new connection: everything that is not written yet is still to be sent on it.

**Proof sketch.** Nothing of the queue is transmitted. The messages of the written buffers are those
in front of what the connection carries; before the first connection nothing is written. -/
lemma connected (h : l.Inv send recv) (h0 : l.transmitted = 0) :
    Inv send recv { stepSender send l (.connectCbk .success) with
      connections := .fresh (TcpServer.start recv false) :: l.connections } := by
  have hordered := h.ordered.step (a := .connectCbk .success) trivial
  have hcookies := ClientEndpoint.sendsCookies_step ⟨send, .tcp⟩ l.sender
    (a := .connectCbk .success) (by simp)
  rw [h.cookies] at hcookies
  have haccepted : ClientEndpoint.acceptedBy ⟨send, .tcp⟩ l.sender (.connectCbk .success) = [] := rfl
  simp only [stepSender, ClientEndpoint.stepAccepted, haccepted, List.append_nil] at hordered ⊢
  have hqueue : ∃ writes, (ClientEndpoint.step ⟨send, .tcp⟩ l.sender
      (.connectCbk .success)).toSendQueue = { l.sender.toSendQueue with writes } := by
    simp only [ClientEndpoint.step, ClientEndpoint.connectCbk, reduceCtorEq, if_false, ne_eq,
      not_true, false_and]
    split_ifs
    · rw [ClientEndpoint.sendQueued_of_not_sendsCookies
        (e := { l.sender with wasNotConnected := false }) h.cookies]
      simp only [SendQueue.startWrite]
      split
      · exact ⟨_, rfl⟩
      · exact ⟨_, rfl⟩
    · exact ⟨_, rfl⟩
  obtain ⟨writes, hqueue⟩ := hqueue
  obtain ⟨sent, unsent, haccepted, -, hunsent, hnil⟩ := exists_unsent h.inOrder
  refine ⟨hordered, hcookies, h.valid, h0.le.trans (Nat.zero_le _),
    fun hnil => absurd hnil (List.cons_ne_nil _ _), fun i c hc => ?_⟩
  cases i with
  | zero =>
    obtain rfl : Framing.Channel.fresh (TcpServer.start recv false) = c := by simpa using hc
    have hne : ∀ m ∈ unsent, id m ≠ [] := fun m hm =>
      ne_nil_of_tcpMessage (h.valid m (by rw [haccepted]; exact List.mem_append_right sent hm))
    refine ⟨sent, [], unsent, ?_, fun hfirst => ?_, fun _ _ => ?_⟩
    · rw [haccepted]
      exact Framing.Carries.fresh (pending_start recv).1 hne
    · refine hnil (h.written (List.eq_nil_of_length_eq_zero ?_))
      simpa using hfirst.symm
    · simp only [rest, hqueue, h0, List.drop_zero, List.nil_append]
      exact hunsent
  | succ i =>
    obtain ⟨before, p, after, hcarries, holdest, -⟩ := h.serves i c (by simpa using hc)
    refine ⟨before, p, after, hcarries, fun hlast => holdest (by simpa using hlast), fun hi => ?_⟩
    exact absurd hi (Nat.succ_ne_zero i)

/-- Some bytes of the outstanding write are transmitted.

**Proof sketch.** They are the first of the bytes that are still to be transmitted. Without an
outstanding write there are none. -/
lemma transmit (h : l.Inv send recv) (n : ℕ) : (l.transmit n).Inv send recv := by
  rw [TcpLink.transmit]
  cases hconn : l.connections with
  | nil => exact h
  | cons c older =>
    dsimp only
    set bytes := (l.writing.drop l.transmitted).take n with hbytes
    have hle := h.transmitted
    have hlen : bytes.length ≤ l.writing.length - l.transmitted := by
      rw [hbytes, List.length_take, List.length_drop]
      exact Nat.min_le_right _ _
    refine ⟨h.ordered, h.cookies, h.valid, ?_, fun hnil => absurd hnil (List.cons_ne_nil _ _),
      fun i c' hc' => ?_⟩
    · change l.transmitted + bytes.length ≤ l.writing.length
      omega
    · cases i with
      | zero =>
        obtain rfl : c.put bytes = c' := by simpa using hc'
        obtain ⟨before, p, after, hcarries, holdest, hnewest⟩ := h.serves 0 c (by rw [hconn]; rfl)
        rw [hconn] at holdest
        rcases h.writes_cases with ⟨hw, -⟩ | ⟨b, q, hw, hq, hb⟩
        · have hnone : bytes = [] := by rw [hbytes, writing, hw]; simp
          rw [hnone]
          refine ⟨before, p, after, by simpa [Framing.Channel.put] using hcarries, holdest, ?_⟩
          simpa [rest, Live] using hnewest
        · have hrest : l.rest = bytes ++ l.rest.drop bytes.length := by
            have hbegins : bytes <+: l.rest := by
              rw [rest, hq, List.flatten_cons, List.append_assoc,
                List.drop_append_of_le_length (by rw [← hb]; exact hle), hbytes, hb]
              exact (List.take_prefix n _).trans (List.prefix_append _ _)
            exact (List.prefix_iff_eq_append.mp hbegins).symm
          have hnow := hnewest rfl (Or.inl (by rw [hw]; exact List.cons_ne_nil b []))
          rw [hrest, ← List.append_assoc, ← List.map_id after] at hnow
          obtain ⟨p', after', hcarries', hnow'⟩ := hcarries.put hnow
          refine ⟨before, p', after', hcarries', holdest, fun _ _ => ?_⟩
          rw [List.map_id] at hnow'
          rw [← hnow', rest, rest, List.drop_drop]
      | succ i =>
        obtain ⟨before, p, after, hcarries, holdest, -⟩ := h.serves (i + 1) c' (by
          rw [hconn]
          simpa using hc')
        refine ⟨before, p, after, hcarries, fun hlast => holdest ?_, fun hi => ?_⟩
        · rw [hconn]
          simpa using hlast
        · exact absurd hi (Nat.succ_ne_zero i)

/-- Some bytes arrive on one of the connections. -/
lemma arrive (h : l.Inv send recv) (i n : ℕ) : (l.arrive recv i n).Inv send recv := by
  refine ⟨h.ordered, h.cookies, h.valid, h.transmitted, fun hnil => h.written ?_, fun j c hc => ?_⟩
  · refine List.eq_nil_of_length_eq_zero ?_
    have hlength := congrArg List.length hnil
    rwa [TcpLink.arrive, List.length_modify] at hlength
  · simp only [TcpLink.arrive, List.getElem?_modify, Option.map_eq_map, Option.map_eq_some_iff] at hc
    obtain ⟨c, hget, rfl⟩ := hc
    obtain ⟨before, p, after, hcarries, holdest, hnewest⟩ := h.serves j c hget
    refine ⟨before, p, after, ?_, fun hlast => holdest ?_, hnewest⟩
    · split_ifs with hi hacc
      · exact hcarries.arrive (TcpServer.reassembles recv) h.valid hacc
      · exact hcarries
      · exact hcarries
    · rwa [TcpLink.arrive, List.length_modify] at hlast

end Inv

/-! ## Runs -/

/-- A new link has accepted nothing and has no connection. -/
lemma inv_init (send : SendConfig) (recv : RecvConfig) (now : ℤ) : (init now).Inv send recv where
  ordered := ⟨SendQueue.inOrder_empty send _, Or.inl rfl, rfl, fun h => absurd h Bool.false_ne_true⟩
  cookies := rfl
  valid := fun _ hm => absurd hm List.not_mem_nil
  transmitted := Nat.le_refl 0
  written := fun _ => rfl
  serves := fun _ _ hc => absurd hc (by simp [init])

/-- The client gets something that is neither the callback of a write nor that of a new connection. -/
lemma Inv.plain (h : l.Inv send recv) {a : ClientAction} (ha : ClientEndpoint.Plain a)
    (hvalid : ∀ m ∈ ClientEndpoint.acceptedBy ⟨send, .tcp⟩ l.sender a, TcpMessage recv m) :
    (stepSender send l a).Inv send recv := by
  have hcookies := ClientEndpoint.sendsCookies_step ⟨send, .tcp⟩ l.sender (a := a) (by
    rintro rfl
    exact ha)
  obtain ⟨hwritten, hframe⟩ := ClientEndpoint.step_frame h.ordered.unblocked h.cookies ha
  refine h.of_frame (h.ordered.step (a := a) ?_) (hcookies.trans h.cookies) hvalid hwritten hframe
  cases a <;> first | exact ha.elim | exact trivial

/-- A connection is not made. -/
lemma Inv.notConnected (h : l.Inv send recv) {error : ErrorCode} (hsuccess : error ≠ .success)
    (halready : error ≠ .alreadyConnected) :
    (stepSender send l (.connectCbk error)).Inv send recv := by
  have hcookies := ClientEndpoint.sendsCookies_step ⟨send, .tcp⟩ l.sender (a := .connectCbk error)
    (by simp)
  have hqueue : (ClientEndpoint.step ⟨send, .tcp⟩ l.sender (.connectCbk error)).toSendQueue =
      l.sender.toSendQueue := by
    simp only [ClientEndpoint.step, ClientEndpoint.connectCbk]
    rw [if_pos (show error ≠ .success ∧ error ≠ .alreadyConnected from ⟨hsuccess, halready⟩)]
    split_ifs <;> rfl
  refine h.of_frame (h.ordered.step (a := .connectCbk error) trivial) (hcookies.trans h.cookies)
    (fun m hm => absurd hm List.not_mem_nil) (congrArg SendQueue.written hqueue) fun _ => ?_
  exact ⟨congrArg SendQueue.writes hqueue, [],
    (congrArg SendQueue.queue hqueue).trans (List.append_nil _).symm⟩

/-- Every step keeps the invariant. -/
lemma Inv.step (h : l.Inv send recv) {a : LinkAction} (ha : a.Holds recv) :
    (TcpLink.step send recv l a).Inv send recv := by
  cases a with
  | transmit n => exact h.transmit n
  | arrive i n => exact h.arrive i n
  | sender a =>
    cases a with
    | send data flush =>
      refine h.plain trivial fun m hm => ?_
      simp only [ClientEndpoint.acceptedBy] at hm
      split_ifs at hm
      · obtain rfl := List.mem_singleton.mp hm
        exact ha
      · exact absurd hm List.not_mem_nil
    | flush => exact h.plain trivial fun m hm => absurd hm List.not_mem_nil
    | flushCbk error => exact h.plain trivial fun m hm => absurd hm List.not_mem_nil
    | sendCbk i error opened =>
      cases error with
      | success =>
        by_cases hdone : l.connections ≠ [] ∧ l.writing.length = l.transmitted
        · rw [TcpLink.step, if_pos hdone]
          exact h.sendCbk i .success opened fun _ => hdone
        · rw [TcpLink.step, if_neg hdone]
          exact h
      | _ => exact h.sendCbk i _ opened fun hsuccess => by simp at hsuccess
    | connectCbk error =>
      cases error with
      | success =>
        simp only [TcpLink.step]
        split_ifs with h0
        · exact h.connected h0
        · exact h
      | alreadyConnected => exact ha.elim
      | _ => exact h.notConnected (by simp) (by simp)
    | waitConnectCbk error opened => exact h.plain trivial fun m hm => absurd hm List.not_mem_nil
    | setConnected connected => exact h.plain trivial fun m hm => absurd hm List.not_mem_nil
    | tick nanoseconds => exact h.plain trivial fun m hm => absurd hm List.not_mem_nil
    | stop => exact ha.elim
    | restart => exact ha.elim
    | enableMagicCookies => exact ha.elim

/-- **What the server delivers.** On every connection it delivers accepted messages, without a gap and
in order, on the first one from the first message on; it never gives up. When nothing is left to be
sent or on the way, everything up to the last message is delivered, and on a single connection that is
everything.

**Proof sketch.** The invariant holds along the run. What a connection carries ends with the log, and
the pending part and the bytes on the way are all that is missing. -/
theorem delivered_run (send : SendConfig) (recv : RecvConfig) (now : ℤ) (as : List LinkAction)
    (has : ∀ a ∈ as, a.Holds recv) :
    let l := Runs.run (step send recv) (init now) as
    (∀ c ∈ l.connections, c.delivered <:+: l.accepted ∧
      (c.inFlight ≠ [] → c.receiver.Accepts (c.inFlight.take 1))) ∧
    (∀ c ∈ l.connections.getLast?, c.delivered <+: l.accepted) ∧
    (∀ c ∈ l.connections.head?, l.Quiet c → c.delivered <:+ l.accepted) ∧
    ∀ c, l.connections = [c] → l.Quiet c → c.delivered = l.accepted := by
  intro l
  have hinv : l.Inv send recv :=
    Runs.inv_run (I := Inv send recv) (P := LinkAction.Holds recv) (fun h ha => Inv.step h ha)
      (inv_init send recv now) has
  have hquiet {c : Framing.Channel TcpReceiver UInt8 (List UInt8)} {i : ℕ} (hi : i = 0)
      (hc : l.connections[i]? = some c) (hquiet : l.Quiet c) :
      ∃ before, l.accepted = before ++ c.delivered ∧ (i + 1 = l.connections.length → before = []) := by
    obtain ⟨hflight, hqueue, hpacketizer⟩ := hquiet
    obtain ⟨before, p, after, hcarries, holdest, hnewest⟩ := hinv.serves i c hc
    have hnow := hnewest hi (Or.inr hqueue)
    rw [rest, hqueue, hpacketizer, List.flatten_nil, List.append_nil, List.drop_nil,
      List.append_nil] at hnow
    exact ⟨before, hcarries.eq_of_empty hflight (by rw [hnow, List.map_id]), holdest⟩
  refine ⟨fun c hc => ⟨?_, fun hflight => ?_⟩, fun c hc => ?_, fun c hc hq => ?_, fun c hc hq => ?_⟩
  · obtain ⟨i, hi⟩ := List.mem_iff_getElem?.mp hc
    obtain ⟨before, p, after, hcarries, -⟩ := hinv.serves i c hi
    obtain ⟨t, ht⟩ := hcarries.begins
    exact ⟨before, t, ht⟩
  · obtain ⟨i, hi⟩ := List.mem_iff_getElem?.mp hc
    obtain ⟨before, p, after, ⟨todo, q, hpending, -⟩, -⟩ := hinv.serves i c hi
    refine ⟨hpending.receiving, fun hnil => hflight ?_, ?_⟩
    · simpa using hnil
    · exact (List.length_take_le 1 _).trans hpending.offered
  · rw [Option.mem_def, List.getLast?_eq_getElem?] at hc
    obtain ⟨before, p, after, hcarries, holdest, -⟩ := hinv.serves _ c hc
    have hpos : 0 < l.connections.length := by
      obtain ⟨hlt, -⟩ := List.getElem?_eq_some_iff.mp hc
      omega
    obtain rfl := holdest (by omega)
    exact hcarries.begins
  · rw [Option.mem_def, List.head?_eq_getElem?] at hc
    obtain ⟨before, haccepted, -⟩ := hquiet rfl hc hq
    exact ⟨before, haccepted.symm⟩
  · have hfirst : l.connections[0]? = some c := by
      rw [hc]
      rfl
    obtain ⟨before, haccepted, holdest⟩ := hquiet rfl hfirst hq
    rw [haccepted, holdest (by rw [hc]; rfl), List.nil_append]

/-- A request is sent before the client is connected. Its first write fails; on the first connection
five bytes of it are transmitted before that breaks, and on the second one it is delivered. -/
theorem delivered_run_twoConnections :
    let as : List LinkAction := [.sender (.send requestMessage true),
      .sender (.sendCbk 0 .notConnected true), .sender (.connectCbk .success), .transmit 5,
      .arrive 0 3, .sender (.sendCbk 0 .brokenPipe true), .sender (.connectCbk .success),
      .transmit 16, .sender (.sendCbk 0 .success true), .arrive 1 2, .arrive 0 9, .arrive 0 7]
    let l := Runs.run (step ⟨1000, 1000⟩ TcpServer.unlimited) (init 0) as
    (∀ c ∈ l.connections, c.delivered <:+: l.accepted ∧
      (c.inFlight ≠ [] → c.receiver.Accepts (c.inFlight.take 1))) ∧
    (∀ c ∈ l.connections.getLast?, c.delivered <+: l.accepted) ∧
    (∀ c ∈ l.connections.head?, l.Quiet c → c.delivered <:+ l.accepted) ∧
    ∀ c, l.connections = [c] → l.Quiet c → c.delivered = l.accepted :=
  delivered_run ⟨1000, 1000⟩ TcpServer.unlimited 0 _ (by
    simp only [List.forall_mem_cons, LinkAction.Holds, ClientAction.Continues]
    exact ⟨⟨by decide, by decide, by decide, by decide, by decide⟩, trivial, trivial, trivial, trivial,
      trivial, trivial, trivial, trivial, trivial, trivial, trivial, by simp⟩)

example : ((Runs.run (step ⟨1000, 1000⟩ TcpServer.unlimited) (init 0)
    [.sender (.send requestMessage true), .sender (.sendCbk 0 .notConnected true),
      .sender (.connectCbk .success), .transmit 5, .sender (.sendCbk 0 .brokenPipe true),
      .sender (.connectCbk .success), .transmit 16, .sender (.sendCbk 0 .success true),
      .arrive 0 16]).connections.map fun c => c.delivered) = [[requestMessage], []] := by
  decide

end TcpLink

end Vsomeip
