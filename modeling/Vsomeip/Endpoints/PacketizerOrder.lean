import Mathlib.Data.List.Forall2
import Vsomeip.Endpoints.ClientQueue

set_option relaxedAutoImplicit false
set_option autoImplicit false

/-!
# The order of messages on a client endpoint

Messages travel from the packetizer over the queue to the socket. On an endpoint that is never stopped
or restarted, no message is lost, sent twice or divided: what is written, what is in the queue and what
is in the packetizer are the accepted messages, in order, packed into buffers. Writes may fail; then the
front of the queue stays there.

## Main definitions

* `Vsomeip.Packed` — a buffer of whole messages, maybe with cookies in front.
* `Vsomeip.SendQueue.InOrder` — the buffers of a send queue hold the accepted messages in order.
* `Vsomeip.ClientEndpoint.stepAccepted` — a step with the messages that are accepted.

## Main results

* `Vsomeip.SendQueue.InOrder.enqueue` — an accepted message stands behind all others.
* `Vsomeip.ClientEndpoint.inOrder_run` — the messages stay in order along every run.
-/

namespace Vsomeip

/-! ## Buffers -/

/-- A buffer of whole messages. Cookies are in front of them only if they are enabled. The messages have
at most the maximum size together, or one of them is all there is; if there is a maximum at all, the
cookies are within it, too. -/
structure Packed (cfg : SendConfig) (isEnabled : Bool) (buffer : List UInt8)
    (ms : List (List UInt8)) : Prop where
  bytes : ∃ n, buffer = (List.replicate n clientCookie).flatten ++ ms.flatten ∧
    (n ≠ 0 → isEnabled = true)
  small : ms.flatten.length ≤ cfg.maxMessageSize.toNat ∨ ms.flatten ∈ ms
  bounded : cfg.maxMessageSize ≠ messageSizeUnlimited → buffer.length ≤ cfg.maxMessageSize.toNat

namespace Packed

variable {cfg : SendConfig} {isEnabled isEnabled' : Bool} {buffer data : List UInt8}
  {ms : List (List UInt8)}

/-- No bytes for no messages. -/
lemma nil (cfg : SendConfig) (isEnabled : Bool) : Packed cfg isEnabled [] [] :=
  ⟨⟨0, rfl, fun h => absurd rfl h⟩, Or.inl (Nat.zero_le _), fun _ => Nat.zero_le _⟩

/-- Cookies that may be there may also not be asked for. -/
lemma mono (h : Packed cfg isEnabled buffer ms) (henabled : isEnabled = true → isEnabled' = true) :
    Packed cfg isEnabled' buffer ms := by
  obtain ⟨n, hbytes, hn⟩ := h.bytes
  exact ⟨⟨n, hbytes, fun h0 => henabled (hn h0)⟩, h.small, h.bounded⟩

/-- Without cookies a buffer is its messages. -/
lemma eq_flatten (h : Packed cfg false buffer ms) : buffer = ms.flatten := by
  obtain ⟨n, hbytes, hn⟩ := h.bytes
  obtain rfl : n = 0 := by
    by_contra h0
    exact absurd (hn h0) Bool.false_ne_true
  simpa using hbytes

/-- A message fits into the packetizer, or the packetizer is empty. -/
lemma append (h : Packed cfg false buffer ms) (hbig : ¬ cfg.TooBig data)
    (hroom : buffer.length + data.length ≤ cfg.maxMessageSize.toNat ∨ buffer = []) :
    Packed cfg false (buffer ++ data) (ms ++ [data]) := by
  have hbuffer := h.eq_flatten
  have hflatten : (ms ++ [data]).flatten = buffer ++ data := by
    rw [List.flatten_append, List.flatten_singleton, hbuffer]
  refine ⟨⟨0, by rw [hflatten]; rfl, fun h0 => absurd rfl h0⟩, ?_, fun hlimited => ?_⟩
  · rw [hflatten]
    rcases hroom with hroom | hempty
    · left
      rwa [List.length_append]
    · right
      rw [hempty]
      exact List.mem_append_right ms (List.mem_singleton_self data)
  · rw [List.length_append]
    rcases hroom with hroom | hempty
    · exact hroom
    · have hle : ¬ data.length > cfg.maxMessageSize.toNat := fun hgt => hbig ⟨hlimited, hgt⟩
      rw [hempty, List.length_nil]
      omega

/-- A cookie is put in front if there is room for it. -/
lemma cookie (h : Packed cfg true buffer ms)
    (hroom : cfg.maxMessageSize = messageSizeUnlimited ∨
      16 ≤ (cfg.maxMessageSize.toNat + 2 ^ 64 - buffer.length) % 2 ^ 64) :
    Packed cfg true (clientCookie ++ buffer) ms := by
  obtain ⟨n, hbytes, hn⟩ := h.bytes
  refine ⟨⟨n + 1, ?_, fun _ => rfl⟩, h.small, fun hlimited => ?_⟩
  · rw [hbytes, List.replicate_succ, List.flatten_cons, List.append_assoc]
  · have hle := h.bounded hlimited
    have hfree := hroom.resolve_left hlimited
    have hmax := cfg.maxMessageSize.toNat_lt
    have hlength : clientCookie.length = 16 := rfl
    rw [List.length_append, hlength]
    omega

end Packed

/-! ## Queues -/

namespace SendQueue

/-- The written buffers, the queue and the packetizer hold the accepted messages in order. -/
def InOrder (cfg : SendConfig) (isEnabled : Bool) (q : SendQueue) (accepted : List (List UInt8)) :
    Prop :=
  ∃ written queue packet, List.Forall₂ (Packed cfg isEnabled) q.written written ∧
    List.Forall₂ (Packed cfg isEnabled) q.queue queue ∧ Packed cfg false q.packetizer packet ∧
    accepted = written.flatten ++ queue.flatten ++ packet

variable {cfg : SendConfig} {isEnabled isEnabled' : Bool} {q : SendQueue}
  {accepted : List (List UInt8)}

/-- An empty queue is in order. -/
lemma inOrder_empty (cfg : SendConfig) (isEnabled : Bool) : empty.InOrder cfg isEnabled [] :=
  ⟨[], [], [], .nil, .nil, Packed.nil cfg false, rfl⟩

/-- The order stays when cookies get enabled. -/
lemma InOrder.mono (h : q.InOrder cfg isEnabled accepted)
    (henabled : isEnabled = true → isEnabled' = true) : q.InOrder cfg isEnabled' accepted := by
  obtain ⟨written, queue, packet, hwritten, hqueue, hpacket, haccepted⟩ := h
  refine ⟨written, queue, packet, ?_, ?_, hpacket, haccepted⟩
  · exact hwritten.imp fun _ _ hb => hb.mono henabled
  · exact hqueue.imp fun _ _ hb => hb.mono henabled

/-- The packetizer keeps its place behind the queue when it is pushed. -/
lemma InOrder.pushPacketizer (h : q.InOrder cfg isEnabled accepted) :
    q.pushPacketizer.InOrder cfg isEnabled accepted := by
  obtain ⟨written, queue, packet, hwritten, hqueue, hpacket, haccepted⟩ := h
  refine ⟨written, queue ++ [packet], [], hwritten, ?_, Packed.nil cfg false, ?_⟩
  · exact List.rel_append hqueue (.cons (hpacket.mono fun h => absurd h Bool.false_ne_true) .nil)
  · rw [haccepted, List.flatten_append, List.flatten_singleton, List.append_nil, List.append_assoc]

/-- An accepted message stands behind all others, and a refused one leaves nothing. -/
lemma InOrder.enqueue (h : q.InOrder cfg isEnabled accepted) {data : List UInt8}
    (hbig : ¬ cfg.TooBig data) (flush : Bool) :
    (q.enqueue cfg data flush).1.InOrder cfg isEnabled
      (accepted ++ if (q.enqueue cfg data flush).2 then [data] else []) := by
  have hroom := makeRoom_induction (P := fun q => q.InOrder cfg isEnabled accepted) h h.pushPacketizer
    cfg data.length
  have hfits := q.makeRoom_fits cfg data.length
  simp only [SendQueue.enqueue]
  by_cases hlimit : (q.makeRoom cfg data.length).limitReached cfg data.length
  · simpa [hlimit] using hroom
  · have happend : ({ q.makeRoom cfg data.length with
        packetizer := (q.makeRoom cfg data.length).packetizer ++ data } : SendQueue).InOrder cfg
        isEnabled (accepted ++ [data]) := by
      obtain ⟨written, queue, packet, hwritten, hqueue, hpacket, haccepted⟩ := hroom
      refine ⟨written, queue, packet ++ [data], hwritten, hqueue, hpacket.append hbig hfits, ?_⟩
      rw [haccepted, List.append_assoc]
    rw [if_neg hlimit]
    cases flush with
    | true => exact happend.pushPacketizer
    | false => exact happend

/-- The front of the queue goes over to the written buffers when its write is done. -/
lemma InOrder.complete (h : q.InOrder cfg isEnabled accepted) {b : List UInt8}
    {rest : List (List UInt8)} (hq : q.queue = b :: rest) (hw : q.writes = [b]) :
    (q.complete 0).popFront.InOrder cfg isEnabled accepted := by
  obtain ⟨written, queue, packet, hwritten, hqueue, hpacket, haccepted⟩ := h
  rw [hq] at hqueue
  cases hqueue with
  | @cons _ ms _ queue hb hrest =>
    have hpop : (q.complete 0).popFront =
        { q with queue := rest, queueSize := q.queueSize - b.length, writes := []
                 written := q.written ++ [b] } := by
      simp [SendQueue.complete, popFront, hq, hw]
    rw [hpop]
    refine ⟨written ++ [ms], queue, packet, List.rel_append hwritten (.cons hb .nil), hrest, hpacket,
      ?_⟩
    rw [haccepted]
    simp

/-- The start of a write keeps the order. -/
lemma InOrder.startWrite (h : q.InOrder cfg isEnabled accepted) :
    q.startWrite.InOrder cfg isEnabled accepted := by
  unfold SendQueue.startWrite
  split
  · exact h
  · exact h

/-- At most the front of the queue is being written. -/
def FrontOnly (q : SendQueue) : Prop := q.writes = [] ∨ q.Writing

/-- With an empty queue nothing is being written. -/
lemma FrontOnly.writes_eq_nil (h : q.FrontOnly) (hempty : q.queue = []) : q.writes = [] := by
  rcases h with h | h
  · exact h
  · exact h.writes_eq_nil hempty

/-- The front stays what it is when something is appended to the queue. -/
lemma FrontOnly.of_append {q' : SendQueue} {pushed : List (List UInt8)} (h : q.FrontOnly)
    (hwrites : q'.writes = q.writes) (hqueue : q'.queue = q.queue ++ pushed) : q'.FrontOnly := by
  by_cases hempty : q.queue = []
  · exact Or.inl (hwrites.trans (h.writes_eq_nil hempty))
  · rcases h with h | h
    · exact Or.inl (hwrites.trans h)
    · exact Or.inr (h.of_append hempty hwrites hqueue)

/-- A write that is outstanding is that of the front. -/
lemma FrontOnly.exists_front (h : q.FrontOnly) {i : ℕ} (hi : i < q.writes.length) :
    i = 0 ∧ ∃ b rest, q.queue = b :: rest ∧ q.writes = [b] := by
  rcases h with h | h
  · rw [h] at hi
    exact absurd hi (Nat.not_lt_zero i)
  · rw [Writing] at h
    cases hq : q.queue with
    | nil =>
      rw [h, hq] at hi
      exact absurd hi (Nat.not_lt_zero i)
    | cons b rest =>
      have hw : q.writes = [b] := by rw [h, hq]; rfl
      rw [hw] at hi
      exact ⟨Nat.lt_one_iff.mp hi, b, rest, rfl, hw⟩

end SendQueue

/-! ## Endpoints -/

/-- The endpoint is neither stopped nor restarted. -/
def ClientAction.Continues : ClientAction → Prop
  | .stop | .restart => False
  | _ => True

namespace ClientEndpoint

/-- The messages that are accepted in a step: those for which `send` returns true. -/
def acceptedBy (cfg : ClientConfig) (e : ClientEndpoint) : ClientAction → List (List UInt8)
  | .send data flush => if (send cfg e data flush).2 then [data] else []
  | _ => []

/-- A step of an endpoint with the messages that it has accepted. -/
def stepAccepted (cfg : ClientConfig) (s : ClientEndpoint × List (List UInt8)) (a : ClientAction) :
    ClientEndpoint × List (List UInt8) :=
  (step cfg s.1 a, s.2 ++ acceptedBy cfg s.1 a)

/-- The endpoint puts cookies in front of its buffers. -/
def sendsCookies (cfg : ClientConfig) (e : ClientEndpoint) : Bool :=
  cfg.protocol = .tcp && e.hasEnabledMagicCookies

/-- The messages are in order, at most the front of the queue is being written, and nothing is while the
endpoint is not connected. -/
structure Ordered (cfg : ClientConfig) (e : ClientEndpoint) (accepted : List (List UInt8)) : Prop where
  inOrder : e.toSendQueue.InOrder cfg.toSendConfig (sendsCookies cfg e) accepted
  front : e.toSendQueue.FrontOnly
  unblocked : e.sendingBlocked = false
  disconnected : e.wasNotConnected = true → e.writes = [] ∧ e.queue ≠ []

variable {cfg : ClientConfig} {e : ClientEndpoint} {accepted : List (List UInt8)}

/-- Starting a write changes nothing about cookies. -/
lemma sendsCookies_sendQueued (cfg : ClientConfig) (e : ClientEndpoint) :
    sendsCookies cfg (sendQueued cfg e) = sendsCookies cfg e := by
  have hcookie : (sendMagicCookie cfg e).hasEnabledMagicCookies = e.hasEnabledMagicCookies := by
    unfold sendMagicCookie
    split
    · rfl
    · split_ifs <;> rfl
  simp only [sendsCookies, sendQueued]
  split_ifs
  · rfl
  · simp only [hcookie]
  · rfl

/-- A cookie is put in front of the messages of the first buffer. -/
lemma inOrder_sendMagicCookie
    (h : e.toSendQueue.InOrder cfg.toSendConfig (sendsCookies cfg e) accepted)
    (hcookies : sendsCookies cfg e = true) :
    (sendMagicCookie cfg e).toSendQueue.InOrder cfg.toSendConfig (sendsCookies cfg e) accepted := by
  unfold sendMagicCookie
  split
  · exact h
  · rename_i buffer rest hq
    split_ifs with hroom
    · obtain ⟨written, queue, packet, hwritten, hqueue, hpacket, haccepted⟩ := h
      rw [hq] at hqueue
      rw [hcookies] at hwritten hqueue ⊢
      cases hqueue with
      | @cons _ ms _ queue hb hrest =>
        exact ⟨written, ms :: queue, packet, hwritten, .cons (hb.cookie hroom) hrest, hpacket,
          haccepted⟩
    · exact h

/-- A write is started when none is outstanding. -/
lemma ordered_sendQueued
    (h : e.toSendQueue.InOrder cfg.toSendConfig (sendsCookies cfg e) accepted)
    (hwrites : e.writes = []) (hblocked : e.sendingBlocked = false)
    (hconnected : e.wasNotConnected = false) : (sendQueued cfg e).Ordered cfg accepted := by
  obtain ⟨hb, hc⟩ := flags_sendQueued cfg e
  refine ⟨?_, Or.inr (writing_sendQueued hwrites), hb.trans hblocked, fun hnot => ?_⟩
  · rw [sendsCookies_sendQueued]
    simp only [sendQueued]
    split_ifs with hempty hdue
    · exact h
    · have hcookies : sendsCookies cfg e = true := by simp [sendsCookies, hdue.1, hdue.2.1]
      exact (inOrder_sendMagicCookie h hcookies).startWrite
    · exact h.startWrite
  · rw [hc, hconnected] at hnot
    exact absurd hnot Bool.false_ne_true

namespace Ordered

/-- Something is appended to the queue: a write is started if the queue was empty. -/
lemma of_append (h : e.Ordered cfg accepted) {q : SendQueue} {pushed accepted' : List (List UInt8)}
    (hq : q.InOrder cfg.toSendConfig (sendsCookies cfg e) accepted') (hwrites : q.writes = e.writes)
    (hqueue : q.queue = e.queue ++ pushed) :
    ({ e with toSendQueue := q } : ClientEndpoint).Ordered cfg accepted' ∧
      (e.queue = [] → (sendQueued cfg { e with toSendQueue := q }).Ordered cfg accepted') := by
  refine ⟨⟨hq, h.front.of_append hwrites hqueue, h.unblocked, fun hnot => ?_⟩, fun hempty => ?_⟩
  · obtain ⟨hnil, hne⟩ := h.disconnected hnot
    refine ⟨hwrites.trans hnil, ?_⟩
    rw [hqueue]
    exact List.append_ne_nil_of_left_ne_nil hne pushed
  · refine ordered_sendQueued hq (hwrites.trans (h.front.writes_eq_nil hempty)) h.unblocked ?_
    exact Bool.eq_false_iff.mpr fun hnot => (h.disconnected hnot).2 hempty

/-- `send` keeps the order and adds the message, if it is accepted. -/
lemma send (h : e.Ordered cfg accepted) (data : List UInt8) (flush : Bool) :
    (ClientEndpoint.send cfg e data flush).1.Ordered cfg
      (accepted ++ acceptedBy cfg e (.send data flush)) := by
  by_cases hbig : cfg.TooBig data
  · have hsend : ClientEndpoint.send cfg e data flush = (e, false) := by
      simp [ClientEndpoint.send, h.unblocked, hbig]
    rw [acceptedBy, hsend]
    simpa using h
  · obtain ⟨hwrites, -, pushed, hqueue⟩ :=
      SendQueue.enqueue_spec cfg.toSendConfig e.toSendQueue data flush
    have hresult : (ClientEndpoint.send cfg e data flush).2 =
        (e.toSendQueue.enqueue cfg.toSendConfig data flush).2 := by
      simp only [ClientEndpoint.send, h.unblocked, Bool.false_eq_true, if_false, if_neg hbig]
      cases (e.toSendQueue.enqueue cfg.toSendConfig data flush).2 with
      | false => simp
      | true =>
        simp only [not_true_eq_false, if_false]
        split_ifs <;> rfl
    obtain ⟨hkeeps, hstarts⟩ := h.of_append (h.inOrder.enqueue hbig flush) hwrites hqueue
    rw [acceptedBy, hresult, send_of_unblocked h.unblocked hbig]
    generalize (accepted ++ if (e.toSendQueue.enqueue cfg.toSendConfig data flush).2 = true then
      [data] else []) = accepted' at hkeeps hstarts ⊢
    split_ifs with hstart
    · exact hstarts hstart.2.1
    · exact hkeeps

/-- `flush` keeps the order. -/
lemma flush (h : e.Ordered cfg accepted) : (ClientEndpoint.flush cfg e).1.Ordered cfg accepted := by
  rw [ClientEndpoint.flush]
  obtain ⟨hkeeps, hstarts⟩ := h.of_append h.inOrder.pushPacketizer rfl rfl
  split_ifs with hpacketizer
  · dsimp only
    split_ifs with hlength
    · refine hstarts (List.eq_nil_of_length_eq_zero ?_)
      have hone : (e.queue ++ [e.packetizer]).length = 1 := hlength
      rw [List.length_append, List.length_singleton] at hone
      omega
    · exact hkeeps
  · exact h

/-- Only the state of the connection changes. -/
lemma connect (h : e.Ordered cfg accepted) (opened : Bool) :
    (ClientEndpoint.connect cfg e opened).Ordered cfg accepted := by
  rw [ClientEndpoint.connect]
  split_ifs
  · exact ⟨h.inOrder, h.front, h.unblocked, h.disconnected⟩
  · exact h

/-- A write is done: the front goes over to the written buffers. Or it has failed: the front stays. -/
lemma sendCbk (h : e.Ordered cfg accepted) {i : ℕ} (hi : i < e.writes.length) (error : ErrorCode)
    (opened : Bool) : (ClientEndpoint.sendCbk cfg
      { e with toSendQueue :=
          if error = .success then e.toSendQueue.complete i else e.toSendQueue.fail i }
      error opened).Ordered cfg accepted := by
  obtain ⟨rfl, b, rest, hq, hw⟩ := h.front.exists_front hi
  have hconnected : e.wasNotConnected = false := Bool.eq_false_iff.mpr fun hnot => by
    rw [(h.disconnected hnot).1] at hi
    exact absurd hi (Nat.not_lt_zero 0)
  have hfail : (e.toSendQueue.fail 0).writes = [] := by
    rw [SendQueue.fail, hw]
    rfl
  have hfailed (wasNotConnected : Bool) (state : CeiState) : ({ e with
      toSendQueue := e.toSendQueue.fail 0, state, wasNotConnected } : ClientEndpoint).Ordered cfg
      accepted :=
    ⟨h.inOrder, Or.inl hfail, h.unblocked, fun _ => ⟨hfail, by
      change e.queue ≠ []
      rw [hq]
      exact List.cons_ne_nil b rest⟩⟩
  cases error with
  | success =>
    have hne : (e.toSendQueue.complete 0).queue ≠ [] := by
      rw [show (e.toSendQueue.complete 0).queue = b :: rest from hq]
      exact List.cons_ne_nil b rest
    have hwrites : (e.toSendQueue.complete 0).popFront.writes = [] := by
      simp [SendQueue.complete, SendQueue.popFront, hq, hw]
    rw [if_pos rfl]
    simp only [ClientEndpoint.sendCbk]
    rw [if_pos hne]
    exact ordered_sendQueued (h.inOrder.complete hq hw) hwrites h.unblocked hconnected
  | brokenPipe =>
    rw [if_neg (by decide)]
    simp only [ClientEndpoint.sendCbk]
    rw [if_neg (by rw [h.unblocked]; exact Bool.false_ne_true)]
    exact (hfailed true .closed).connect opened
  | notConnected => exact (hfailed true .closed).connect opened
  | badDescriptor => exact (hfailed true .closed).connect opened
  | operationAborted => exact hfailed e.wasNotConnected e.state
  | eof => exact hfailed e.wasNotConnected e.state
  | connectionReset => exact hfailed e.wasNotConnected e.state
  | timedOut => exact hfailed e.wasNotConnected e.state
  | alreadyConnected => exact hfailed e.wasNotConnected e.state
  | other => exact hfailed e.wasNotConnected e.state

/-- The queue is written again when the endpoint is connected again. -/
lemma connectCbk (h : e.Ordered cfg accepted) (error : ErrorCode) :
    (ClientEndpoint.connectCbk cfg e error).Ordered cfg accepted := by
  rw [ClientEndpoint.connectCbk]
  split_ifs with haborted herror hstate hqueue
  · exact h
  · exact ⟨h.inOrder, h.front, h.unblocked, h.disconnected⟩
  · exact h
  · exact ordered_sendQueued h.inOrder (h.disconnected hqueue.2).1 h.unblocked rfl
  · exact h

/-- Cookies are enabled and never disabled. -/
lemma enableMagicCookies (h : e.Ordered cfg accepted) :
    (ClientEndpoint.enableMagicCookies cfg e).Ordered cfg accepted := by
  refine ⟨h.inOrder.mono fun henabled => ?_, h.front, h.unblocked, h.disconnected⟩
  have htcp : cfg.protocol = .tcp := by
    have hcookies := Bool.and_eq_true_iff.mp henabled
    simpa using hcookies.1
  simp [sendsCookies, ClientEndpoint.enableMagicCookies, htcp]

/-- Every step keeps the messages in order.

**Proof sketch.** The functions one by one. A cookie is put in front of a buffer only when it is about
to be written, so that the buffer of an outstanding write is the front of the queue as it is. -/
lemma step (h : e.Ordered cfg accepted) {a : ClientAction} (ha : a.Continues) :
    (ClientEndpoint.step cfg e a).Ordered cfg (accepted ++ acceptedBy cfg e a) := by
  cases a with
  | send data flush => exact h.send data flush
  | stop => exact ha.elim
  | restart => exact ha.elim
  | flush =>
    simp only [acceptedBy, List.append_nil]
    exact h.flush
  | flushCbk error =>
    simp only [acceptedBy, List.append_nil, ClientEndpoint.step, flushCbk]
    split_ifs
    · exact h.flush
    · exact h
  | sendCbk i error opened =>
    simp only [acceptedBy, List.append_nil, ClientEndpoint.step]
    by_cases hi : i < e.writes.length
    · rw [if_pos hi]
      exact h.sendCbk hi error opened
    · rw [if_neg hi]
      exact h
  | connectCbk error =>
    simp only [acceptedBy, List.append_nil]
    exact h.connectCbk error
  | waitConnectCbk error opened =>
    simp only [acceptedBy, List.append_nil, ClientEndpoint.step, waitConnectCbk]
    split_ifs
    · exact h.connect opened
    · exact h
  | setConnected connected =>
    simp only [acceptedBy, List.append_nil]
    exact ⟨h.inOrder, h.front, h.unblocked, h.disconnected⟩
  | enableMagicCookies =>
    simp only [acceptedBy, List.append_nil]
    exact h.enableMagicCookies
  | tick nanoseconds =>
    simp only [acceptedBy, List.append_nil]
    exact ⟨h.inOrder, h.front, h.unblocked, h.disconnected⟩

end Ordered

/-- **On an endpoint that is never stopped or restarted, the written buffers, the queue and the
packetizer hold exactly the accepted messages, in order and packed within the maximum size.** -/
theorem inOrder_run (cfg : ClientConfig) (now : ℤ) (as : List ClientAction)
    (has : ∀ a ∈ as, a.Continues) :
    let s := Runs.run (stepAccepted cfg) (init now, []) as
    s.1.toSendQueue.InOrder cfg.toSendConfig (sendsCookies cfg s.1) s.2 := by
  have hinit : (init now).Ordered cfg [] :=
    ⟨SendQueue.inOrder_empty cfg.toSendConfig _, Or.inl rfl, rfl, fun h => absurd h Bool.false_ne_true⟩
  let I (s : ClientEndpoint × List (List UInt8)) : Prop := s.1.Ordered cfg s.2
  have hstep {s : ClientEndpoint × List (List UInt8)} {a : ClientAction} (h : I s) (ha : a.Continues) :
      I (stepAccepted cfg s a) := Ordered.step h ha
  have hrun : I (Runs.run (stepAccepted cfg) (init now, []) as) := Runs.inv_run hstep hinit has
  exact hrun.inOrder

/-- A TCP endpoint with cookies gets two messages, of which the second is flushed; the first is written
behind a cookie. -/
theorem inOrder_run_twoMessages :
    let cfg : ClientConfig := ⟨⟨40, 100⟩, .tcp⟩
    let as : List ClientAction := [.enableMagicCookies, .send (List.replicate 20 1) false,
      .send (List.replicate 24 2) true, .sendCbk 0 .success true]
    let s := Runs.run (stepAccepted cfg) (init 0, []) as
    s.1.toSendQueue.InOrder cfg.toSendConfig (sendsCookies cfg s.1) s.2 :=
  inOrder_run ⟨⟨40, 100⟩, .tcp⟩ 0 _ (by simp [ClientAction.Continues])

end ClientEndpoint

end Vsomeip
