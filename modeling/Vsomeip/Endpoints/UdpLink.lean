import Vsomeip.Endpoints.PacketizerOrder
import Vsomeip.Endpoints.Udp

set_option relaxedAutoImplicit false
set_option autoImplicit false

/-!
# Messages between UDP endpoints

A UDP client endpoint packs messages into datagrams. Its writes may fail, and it may be stopped and
restarted at any time. The network loses, repeats and reorders datagrams. A server endpoint, which gets
datagrams of others in between, takes each datagram apart.

## Main definitions

* `Vsomeip.SendQueue.Blocks` — all buffers of a send queue hold accepted messages that follow on each
  other.
* `Vsomeip.UdpLink`, `Vsomeip.UdpLink.step` — the two endpoints and the network.

## Main results

* `Vsomeip.UdpLink.datagrams_delivered` — each arrival of a datagram delivers exactly the messages that were
  packed into it, which were accepted one right after the other; if the client is not stopped or
  restarted, every message is in one datagram.
-/

namespace Vsomeip

/-! ## The client -/

/-- A buffer holds accepted messages that follow on each other. -/
def Block (cfg : SendConfig) (accepted : List (List UInt8)) (buffer : List UInt8) : Prop :=
  ∃ ms, Packed cfg false buffer ms ∧ ms <:+: accepted

namespace SendQueue

/-- All buffers of a send queue hold accepted messages that follow on each other, and the packetizer
holds the last ones. -/
structure Blocks (cfg : SendConfig) (q : SendQueue) (accepted : List (List UInt8)) : Prop where
  queue : ∀ b ∈ q.queue, Block cfg accepted b
  writes : ∀ b ∈ q.writes, Block cfg accepted b
  written : ∀ b ∈ q.written, Block cfg accepted b
  packetizer : ∃ ms, Packed cfg false q.packetizer ms ∧ ms <:+ accepted

section Blocks

variable {cfg : SendConfig} {q : SendQueue} {accepted : List (List UInt8)}

/-- A block of accepted messages stays one when more are accepted. -/
lemma Block.append {buffer : List UInt8} (h : Block cfg accepted buffer) (more : List (List UInt8)) :
    Block cfg (accepted ++ more) buffer := by
  obtain ⟨ms, hms, hinfix⟩ := h
  exact ⟨ms, hms, hinfix.trans (List.prefix_append accepted more).isInfix⟩

/-- An empty queue holds no block. -/
lemma blocks_empty (cfg : SendConfig) : Blocks cfg empty [] where
  queue _ h := absurd h List.not_mem_nil
  writes _ h := absurd h List.not_mem_nil
  written _ h := absurd h List.not_mem_nil
  packetizer := ⟨[], Packed.nil cfg false, List.suffix_rfl⟩

/-- The queue may lose buffers, which may be written then. -/
lemma Blocks.of_subset {q' : SendQueue} (h : Blocks cfg q accepted)
    (hqueue : ∀ b ∈ q'.queue, b ∈ q.queue)
    (hwrites : ∀ b ∈ q'.writes, b ∈ q.writes ∨ b ∈ q.queue)
    (hwritten : ∀ b ∈ q'.written, b ∈ q.written ∨ b ∈ q.writes)
    (hpacketizer : q'.packetizer = q.packetizer) : Blocks cfg q' accepted where
  queue b hb := h.queue b (hqueue b hb)
  writes b hb := (hwrites b hb).elim (h.writes b) (h.queue b)
  written b hb := (hwritten b hb).elim (h.written b) (h.writes b)
  packetizer := hpacketizer ▸ h.packetizer

/-- The packetizer becomes the last block of the queue. -/
lemma Blocks.pushPacketizer (h : Blocks cfg q accepted) : Blocks cfg q.pushPacketizer accepted where
  queue := by
    obtain ⟨ms, hms, hsuffix⟩ := h.packetizer
    exact List.forall_mem_append.mpr
      ⟨h.queue, List.forall_mem_singleton.mpr ⟨ms, hms, hsuffix.isInfix⟩⟩
  writes := h.writes
  written := h.written
  packetizer := ⟨[], Packed.nil cfg false, List.nil_suffix⟩

/-- An accepted message is packed behind those before it, and a refused one leaves nothing. -/
lemma Blocks.enqueue (h : Blocks cfg q accepted) {data : List UInt8} (hbig : ¬ cfg.TooBig data)
    (flush : Bool) : Blocks cfg (q.enqueue cfg data flush).1
      (accepted ++ if (q.enqueue cfg data flush).2 then [data] else []) := by
  have hroom := makeRoom_induction (P := fun q => Blocks cfg q accepted) h h.pushPacketizer cfg
    data.length
  have hfits := q.makeRoom_fits cfg data.length
  unfold SendQueue.enqueue
  by_cases hlimit : (q.makeRoom cfg data.length).limitReached cfg data.length
  · simpa [hlimit] using hroom
  · obtain ⟨ms, hms, before, haccepted⟩ := hroom.packetizer
    have happend : Blocks cfg { q.makeRoom cfg data.length with
        packetizer := (q.makeRoom cfg data.length).packetizer ++ data } (accepted ++ [data]) :=
      { queue := fun b hb => Block.append (hroom.queue b hb) [data]
        writes := fun b hb => Block.append (hroom.writes b hb) [data]
        written := fun b hb => Block.append (hroom.written b hb) [data]
        packetizer := ⟨ms ++ [data], hms.append hbig hfits, before, by
          rw [← List.append_assoc, haccepted]⟩ }
    simp only [if_neg hlimit]
    cases flush with
    | true => exact happend.pushPacketizer
    | false => exact happend

/-- A write starts with a block of the queue. -/
lemma Blocks.startWrite (h : Blocks cfg q accepted) : Blocks cfg q.startWrite accepted := by
  unfold SendQueue.startWrite
  split
  · exact h
  · rename_i hq
    refine h.of_subset (fun _ hb => hb) (fun b' hb' => ?_) (fun _ hb => Or.inl hb) rfl
    refine (List.mem_append.mp hb').imp id fun hb' => ?_
    rw [hq, List.mem_singleton.mp hb']
    exact List.mem_cons_self

/-- The first block leaves the queue. -/
lemma Blocks.popFront (h : Blocks cfg q accepted) : Blocks cfg q.popFront accepted := by
  unfold SendQueue.popFront
  split
  · exact h
  · rename_i b rest hq
    refine h.of_subset (fun b' hb' => ?_) (fun _ hb => Or.inl hb) (fun _ hb => Or.inl hb) rfl
    rw [hq]
    exact List.mem_cons_of_mem b hb'

/-- A write that is complete was one of the blocks. -/
lemma Blocks.complete (h : Blocks cfg q accepted) (i : ℕ) : Blocks cfg (q.complete i) accepted := by
  refine h.of_subset (fun _ hb => hb) (fun b hb => Or.inl (List.mem_of_mem_eraseIdx hb))
    (fun b hb => ?_) rfl
  refine (List.mem_append.mp hb).imp id fun hb => ?_
  exact List.mem_of_getElem? (Option.mem_toList.mp hb)

/-- A write that fails keeps the blocks. -/
lemma Blocks.fail (h : Blocks cfg q accepted) (i : ℕ) : Blocks cfg (q.fail i) accepted :=
  h.of_subset (fun _ hb => hb) (fun _ hb => Or.inl (List.mem_of_mem_eraseIdx hb))
    (fun _ hb => Or.inl hb) rfl

end Blocks

end SendQueue

namespace ClientEndpoint

variable {cfg : ClientConfig} {e : ClientEndpoint} {accepted : List (List UInt8)}
  {data : List UInt8}

open SendQueue

/-- A UDP endpoint sends no cookies: a write is all that is started. -/
lemma sendQueued_toSendQueue (hudp : cfg.protocol = .udp) (e : ClientEndpoint) :
    (sendQueued cfg e).toSendQueue = e.toSendQueue.startWrite := by
  have hdue : ¬ cookieDue cfg e := fun hdue => by
    rw [cookieDue, hudp] at hdue
    exact absurd hdue.1 (by decide)
  rw [sendQueued]
  split_ifs with hempty
  · rw [startWrite, hempty]
  · rfl

/-- Whether a message is accepted is up to the queue. -/
lemma send_result (h : e.sendingBlocked = false) (hbig : ¬ cfg.TooBig data)
    (flush : Bool) :
    (send cfg e data flush).2 = (e.toSendQueue.enqueue cfg.toSendConfig data flush).2 := by
  simp only [send, h, Bool.false_eq_true, if_false, if_neg hbig]
  cases (e.toSendQueue.enqueue cfg.toSendConfig data flush).2 with
  | false => simp
  | true =>
    simp only [not_true_eq_false, if_false]
    split_ifs <;> rfl

/-- A message is not even looked at. -/
lemma send_of_not (h : e.sendingBlocked = true ∨ cfg.TooBig data) (flush : Bool) :
    send cfg e data flush = (e, false) := by
  rw [send]
  split_ifs with hblocked hbig
  · rfl
  · rfl
  · exact (h.elim hblocked hbig).elim

/-- Clearing the queue keeps the blocks that were written. -/
lemma blocks_clearQueue (h : Blocks cfg.toSendConfig e.toSendQueue accepted) :
    Blocks cfg.toSendConfig (clearQueue e).toSendQueue accepted :=
  h.of_subset (fun _ hb => absurd hb List.not_mem_nil) (fun _ hb => Or.inl hb)
    (fun _ hb => Or.inl hb) rfl

/-- `send` adds the message to the blocks, if it is accepted. -/
lemma blocks_send (hudp : cfg.protocol = .udp) (h : Blocks cfg.toSendConfig e.toSendQueue accepted)
    (data : List UInt8) (flush : Bool) :
    Blocks cfg.toSendConfig (send cfg e data flush).1.toSendQueue
      (accepted ++ if (send cfg e data flush).2 then [data] else []) := by
  by_cases hnot : e.sendingBlocked = true ∨ cfg.TooBig data
  · rw [send_of_not hnot]
    simpa using h
  · obtain ⟨hblocked, hbig⟩ := not_or.mp hnot
    have hunblocked := Bool.eq_false_iff.mpr hblocked
    have henqueue := h.enqueue hbig flush
    rw [send_of_unblocked hunblocked hbig, send_result hunblocked hbig]
    generalize (accepted ++ if (e.toSendQueue.enqueue cfg.toSendConfig data flush).2 = true then
      [data] else []) = accepted' at henqueue ⊢
    split_ifs
    · rw [sendQueued_toSendQueue hudp]
      exact henqueue.startWrite
    · exact henqueue

/-- `flush` keeps the blocks. -/
lemma blocks_flush (hudp : cfg.protocol = .udp) (h : Blocks cfg.toSendConfig e.toSendQueue accepted) :
    Blocks cfg.toSendConfig (flush cfg e).1.toSendQueue accepted := by
  rw [flush]
  split_ifs
  · dsimp only
    split_ifs
    · rw [sendQueued_toSendQueue hudp]
      exact h.pushPacketizer.startWrite
    · exact h.pushPacketizer
  · exact h

/-- The callback of a write keeps the blocks. -/
lemma blocks_sendCbk (hudp : cfg.protocol = .udp)
    (h : Blocks cfg.toSendConfig e.toSendQueue accepted) (error : ErrorCode) (opened : Bool) :
    Blocks cfg.toSendConfig (sendCbk cfg e error opened).toSendQueue accepted := by
  cases error with
  | success =>
    simp only [sendCbk]
    split_ifs
    · rw [sendQueued_toSendQueue hudp]
      exact h.popFront.startWrite
    · exact h
  | brokenPipe =>
    simp only [sendCbk, connect_toSendQueue]
    split_ifs
    · exact blocks_clearQueue h
    · exact h
  | notConnected => simpa only [sendCbk, connect_toSendQueue] using h
  | badDescriptor => simpa only [sendCbk, connect_toSendQueue] using h
  | operationAborted => exact h
  | eof => exact h
  | connectionReset => exact h
  | timedOut => exact h
  | alreadyConnected => exact h
  | other => exact h

/-- Whatever happens to a UDP client endpoint, its buffers hold accepted messages that follow on each
other: a part of the queue may get lost, but no buffer is changed. -/
lemma blocks_step (hudp : cfg.protocol = .udp) (h : Blocks cfg.toSendConfig e.toSendQueue accepted)
    (a : ClientAction) :
    Blocks cfg.toSendConfig (step cfg e a).toSendQueue (accepted ++ acceptedBy cfg e a) := by
  cases a with
  | send data flush => exact blocks_send hudp h data flush
  | flush =>
    simp only [acceptedBy, List.append_nil]
    exact blocks_flush hudp h
  | flushCbk error =>
    simp only [acceptedBy, List.append_nil, step, flushCbk]
    split_ifs
    · exact blocks_flush hudp h
    · exact h
  | sendCbk i error opened =>
    simp only [acceptedBy, List.append_nil, step]
    by_cases hi : i < e.writes.length
    · rw [if_pos hi]
      refine blocks_sendCbk hudp ?_ error opened
      split_ifs
      · exact h.complete i
      · exact h.fail i
    · rw [if_neg hi]
      exact h
  | connectCbk error =>
    simp only [acceptedBy, List.append_nil, step, connectCbk]
    split_ifs
    · exact h
    · exact h
    · exact h
    · rw [sendQueued_toSendQueue hudp]
      exact h.startWrite
    · exact h
  | waitConnectCbk error opened =>
    simp only [acceptedBy, List.append_nil, step, waitConnectCbk]
    split_ifs
    · rw [connect_toSendQueue]
      exact h
    · exact h
  | stop =>
    simp only [acceptedBy, List.append_nil, step, stop, hudp]
    exact blocks_clearQueue h
  | restart =>
    simp only [acceptedBy, List.append_nil, step, restart, hudp]
    split_ifs
    · exact h
    · exact h.of_subset (fun _ hb => absurd hb List.not_mem_nil) (fun _ hb => Or.inl hb)
        (fun _ hb => Or.inl hb) rfl
  | setConnected connected =>
    simp only [acceptedBy, List.append_nil]
    exact h
  | enableMagicCookies =>
    simp only [acceptedBy, List.append_nil]
    exact h
  | tick nanoseconds =>
    simp only [acceptedBy, List.append_nil]
    exact h

end ClientEndpoint

/-! ## The server -/

/-- A message that a UDP server never leaves out. -/
def DatagramMessage (m : List UInt8) : Prop := UdpMessage m ∧ serviceOf m ≠ sdService

/-- Whatever came before, the server delivers exactly these messages of a datagram, and waits again. -/
def Delivers (r : UdpReceiver) (datagram : List UInt8) (ms : List (List UInt8)) : Prop :=
  ∀ isJoined, ∃ r' events, (∀ result,
      Loop.Returns (UdpServer.receiveCbk r .success datagram isJoined) result ↔
        result = (r', events)) ∧
    r'.receiving = true ∧ UdpEvent.messages events = ms ∧ UdpEvent.errors events = []

/-- Nothing else is left out than messages of service discovery. -/
lemma delivered_eq_self {ms : List (List UInt8)} (h : ∀ m ∈ ms, serviceOf m ≠ sdService)
    (rest : List UInt8) : delivered UdpServer.leavesOut rest ms = ms := by
  induction ms with
  | nil => rfl
  | cons m ms ih =>
    obtain ⟨hm, hms⟩ := List.forall_mem_cons.mp h
    rw [delivered, ih hms, if_neg]
    simp [UdpServer.leavesOut, hm]

/-- The messages that are packed into a datagram are delivered, if it fits into the buffer. -/
lemma delivers_flatten {r : UdpReceiver} {ms : List (List UInt8)}
    (hms : ∀ m ∈ ms, DatagramMessage m) (hfits : ms.flatten.length ≤ r.maxMessageSize.toNat) :
    Delivers r ms.flatten ms := by
  intro isJoined
  have hreceived : r.received ms.flatten = ms.flatten := List.take_of_length_le hfits
  have hmaximal : Framing.Maximal UdpMessage (r.received ms.flatten) ms [] :=
    { split := by rw [hreceived, List.append_nil]
      frames := fun m hm => (hms m hm).1
      not_frame := fun m hm hpre => hm.ne_nil (List.prefix_nil.mp hpre) }
  have hends : UdpReceiver.Ends ms [] (UdpServer.receiveCbk r .success ms.flatten isJoined) := by
    by_cases hne : ms.flatten = []
    · have hcbk : UdpServer.receiveCbk r .success ms.flatten isJoined =
          fun _ => some (r.receive, []) := by
        funext fuel
        rw [UdpServer.receiveCbk, hreceived]
        exact if_neg fun h => h.2 hne
      have hnil : ms = [] := by
        by_contra hms'
        obtain ⟨m, hm⟩ := List.exists_mem_of_ne_nil ms hms'
        exact (hms m hm).1.ne_nil (List.flatten_eq_nil_iff.mp hne m hm)
      rw [hcbk, hnil]
      exact r.ends_receive
    · have hcbk : UdpServer.receiveCbk r .success ms.flatten isJoined =
          r.process (UdpServer.round isJoined) (r.received ms.flatten) := by
        funext fuel
        rw [UdpServer.receiveCbk, if_pos]
        rw [hreceived]
        exact ⟨rfl, hne⟩
      have hends := r.ends_process (UdpServer.rounds isJoined) hmaximal (by rwa [hreceived])
      rwa [delivered_eq_self fun m hm => (hms m hm).2, ← hcbk] at hends
  obtain ⟨r', events, hreturns, hreceiving, hmessages, herrors⟩ := hends
  exact ⟨r', events, hreturns, hreceiving, hmessages, herrors.resolve_right fun h => h.2 rfl⟩

/-- The size of the buffer stays what it is. -/
lemma maxMessageSize_receiveCbk {r : UdpReceiver} {error : UdpError} {datagram : List UInt8}
    {isJoined : Bool} {fuel : ℕ} {result : UdpReceiver × List UdpEvent}
    (h : UdpServer.receiveCbk r error datagram isJoined fuel = some result) :
    result.1.maxMessageSize = r.maxMessageSize := by
  rw [UdpServer.receiveCbk] at h
  split_ifs at h
  · obtain ⟨l, -, rfl⟩ := Option.map_eq_some_iff.mp h
    rfl
  · rw [← Option.some.inj h]
    rfl

/-! ## The link -/

/-- A UDP client with the messages that it has accepted, and a UDP server with the datagrams of this
client that it got and what it did with each. -/
structure UdpLink where
  sender : ClientEndpoint
  accepted : List (List UInt8)
  receiver : UdpReceiver
  arrivals : List (List UInt8 × List UdpEvent)

/-- What happens to a link: something happens to the client, the `i`-th of its datagrams arrives, or the
callback of the server is called for something else. The callback may run for as long as there is fuel;
if that is not enough, it does not end in this step. -/
inductive DatagramAction
  | sender (a : ClientAction)
  | arrive (i : ℕ) (isJoined : Bool) (fuel : ℕ)
  | other (error : UdpError) (datagram : List UInt8) (isJoined : Bool) (fuel : ℕ)

namespace UdpLink

variable (cfg : SendConfig) (l : UdpLink)

/-- A new client and a server. -/
def init (now : ℤ) (receiver : UdpReceiver) : UdpLink :=
  { sender := ClientEndpoint.init now, accepted := [], receiver, arrivals := [] }

/-- The datagrams that may arrive, at any time, in any order and any number of times: all that were
written and those that are being written. -/
def onNetwork : List (List UInt8) := l.sender.written ++ l.sender.writes

/-- A datagram of the client arrives. -/
def arrive (datagram : List UInt8) (isJoined : Bool) (fuel : ℕ) : Option UdpLink :=
  (UdpServer.receiveCbk l.receiver .success datagram isJoined fuel).map fun result =>
    { l with receiver := result.1, arrivals := l.arrivals ++ [(datagram, result.2)] }

/-- A link as a state machine. -/
def step : DatagramAction → UdpLink
  | .sender a =>
    let s := ClientEndpoint.stepAccepted ⟨cfg, .udp⟩ (l.sender, l.accepted) a
    { l with sender := s.1, accepted := s.2 }
  | .arrive i isJoined fuel =>
    (l.onNetwork[i]?.bind fun datagram => l.arrive datagram isJoined fuel).getD l
  | .other error datagram isJoined fuel =>
    ((UdpServer.receiveCbk l.receiver error datagram isJoined fuel).map fun result =>
      { l with receiver := result.1 }).getD l

end UdpLink

/-- The client gets only messages that the server does not leave out. -/
def DatagramAction.Holds : DatagramAction → Prop
  | .sender (.send data _) => DatagramMessage data
  | _ => True

/-- The client is neither stopped nor restarted. -/
def DatagramAction.Continues : DatagramAction → Prop
  | .sender a => a.Continues
  | _ => True

namespace UdpLink

variable {cfg : SendConfig} {receiver : UdpReceiver} {l : UdpLink}

/-- The invariant of a link. -/
structure Inv (cfg : SendConfig) (receiver : UdpReceiver) (l : UdpLink) : Prop where
  blocks : l.sender.toSendQueue.Blocks cfg l.accepted
  valid : ∀ m ∈ l.accepted, DatagramMessage m
  receiver : l.receiver.maxMessageSize = receiver.maxMessageSize
  arrivals : ∀ a ∈ l.arrivals, UdpEvent.errors a.2 = [] ∧ (UdpEvent.messages a.2).flatten = a.1 ∧
    UdpEvent.messages a.2 <:+: l.accepted

/-- Packed messages are delivered by a server whose buffer is at least as large. -/
lemma Inv.delivers (h : l.Inv cfg receiver) (hlimited : cfg.maxMessageSize ≠ messageSizeUnlimited)
    (hroom : cfg.maxMessageSize.toNat ≤ receiver.maxMessageSize.toNat) {datagram : List UInt8}
    {ms : List (List UInt8)} (hpacked : Packed cfg false datagram ms) (hms : ∀ m ∈ ms, m ∈ l.accepted) :
    Delivers l.receiver datagram ms := by
  have hbound := hpacked.bounded hlimited
  rw [hpacked.eq_flatten] at hbound ⊢
  refine delivers_flatten (fun m hm => h.valid m (hms m hm)) ?_
  rw [h.receiver]
  exact hbound.trans hroom

/-- What may arrive is delivered. -/
lemma Inv.exists_delivers (h : l.Inv cfg receiver)
    (hlimited : cfg.maxMessageSize ≠ messageSizeUnlimited)
    (hroom : cfg.maxMessageSize.toNat ≤ receiver.maxMessageSize.toNat) {datagram : List UInt8}
    (hdatagram : datagram ∈ l.onNetwork) :
    ∃ ms, Delivers l.receiver datagram ms ∧ ms.flatten = datagram ∧ ms <:+: l.accepted := by
  obtain ⟨ms, hpacked, hinfix⟩ : Block cfg l.accepted datagram :=
    (List.mem_append.mp hdatagram).elim (h.blocks.written datagram) (h.blocks.writes datagram)
  exact ⟨ms, h.delivers hlimited hroom hpacked fun m hm => hinfix.subset hm,
    hpacked.eq_flatten.symm, hinfix⟩

/-- Every step keeps the invariant. -/
lemma Inv.step (h : l.Inv cfg receiver) (hlimited : cfg.maxMessageSize ≠ messageSizeUnlimited)
    (hroom : cfg.maxMessageSize.toNat ≤ receiver.maxMessageSize.toNat) {a : DatagramAction}
    (ha : a.Holds) : (UdpLink.step cfg l a).Inv cfg receiver := by
  cases a with
  | sender a =>
    refine ⟨@ClientEndpoint.blocks_step ⟨cfg, .udp⟩ _ _ rfl h.blocks a, fun m hm => ?_, h.receiver,
      fun arrival harrival => ?_⟩
    · refine (List.mem_append.mp hm).elim (h.valid m) fun hm => ?_
      cases a with
      | send data flush =>
        simp only [ClientEndpoint.acceptedBy] at hm
        split_ifs at hm
        · exact List.mem_singleton.mp hm ▸ ha
        · exact absurd hm List.not_mem_nil
      | _ => exact absurd hm List.not_mem_nil
    · obtain ⟨herrors, hflatten, hinfix⟩ := h.arrivals arrival harrival
      exact ⟨herrors, hflatten, hinfix.trans (List.prefix_append _ _).isInfix⟩
  | arrive i isJoined fuel =>
    rw [UdpLink.step]
    cases hget : l.onNetwork[i]? with
    | none => exact h
    | some datagram =>
      rw [Option.bind_some, UdpLink.arrive]
      cases hcbk : UdpServer.receiveCbk l.receiver .success datagram isJoined fuel with
      | none => exact h
      | some result =>
        obtain ⟨ms, hdelivers, hflatten, hinfix⟩ :=
          h.exists_delivers hlimited hroom (List.mem_of_getElem? hget)
        obtain ⟨r', events, hreturns, -, hmessages, herrors⟩ := hdelivers isJoined
        obtain rfl := (hreturns result).mp ⟨fuel, hcbk⟩
        refine ⟨h.blocks, h.valid, (maxMessageSize_receiveCbk hcbk).trans h.receiver, ?_⟩
        refine List.forall_mem_append.mpr ⟨h.arrivals, List.forall_mem_singleton.mpr ?_⟩
        change UdpEvent.errors events = [] ∧ (UdpEvent.messages events).flatten = datagram ∧
          UdpEvent.messages events <:+: l.accepted
        rw [hmessages]
        exact ⟨herrors, hflatten, hinfix⟩
  | other error datagram isJoined fuel =>
    rw [UdpLink.step]
    cases hcbk : UdpServer.receiveCbk l.receiver error datagram isJoined fuel with
    | none => exact h
    | some result =>
      exact ⟨h.blocks, h.valid, (maxMessageSize_receiveCbk hcbk).trans h.receiver, h.arrivals⟩

/-! ## Runs -/

/-- The invariant holds at the start. -/
lemma inv_init (cfg : SendConfig) (now : ℤ) (receiver : UdpReceiver) :
    (init now receiver).Inv cfg receiver where
  blocks := SendQueue.blocks_empty cfg
  valid _ hm := absurd hm List.not_mem_nil
  receiver := rfl
  arrivals _ ha := absurd ha List.not_mem_nil

/-- A client that is neither stopped nor restarted keeps its messages in order. -/
lemma ordered_run (cfg : SendConfig) (now : ℤ) (receiver : UdpReceiver) (as : List DatagramAction)
    (has : ∀ a ∈ as, a.Continues) :
    let l := Runs.run (step cfg) (init now receiver) as
    l.sender.Ordered ⟨cfg, .udp⟩ l.accepted := by
  refine Runs.inv_run (I := fun l : UdpLink => l.sender.Ordered ⟨cfg, .udp⟩ l.accepted)
    (P := DatagramAction.Continues) (fun {l a} h ha => ?_) ?_ has
  · cases a with
    | sender a => exact h.step ha
    | arrive i isJoined fuel =>
      rw [step]
      cases l.onNetwork[i]? with
      | none => exact h
      | some datagram =>
        rw [Option.bind_some, UdpLink.arrive]
        cases UdpServer.receiveCbk l.receiver .success datagram isJoined fuel <;> exact h
    | other error datagram isJoined fuel =>
      rw [step]
      cases UdpServer.receiveCbk l.receiver error datagram isJoined fuel <;> exact h
  · exact ⟨SendQueue.inOrder_empty cfg _, Or.inl rfl, rfl, fun h => absurd h Bool.false_ne_true⟩

/-- **Every datagram that arrives delivers exactly the messages that are packed into it, which were
accepted one right after the other, whatever the network does and whatever else arrives; the callback
always ends. If the client is neither stopped nor restarted, the written datagrams hold the first
accepted messages, every one of them once and in order.**

**Proof sketch.** All buffers of the client hold accepted messages that follow on each other, and no
more bytes than the server takes of a datagram. So the server finds the messages in front of what it
received, and nothing is left behind them. -/
theorem datagrams_delivered (cfg : SendConfig) (now : ℤ) (receiver : UdpReceiver)
    (hlimited : cfg.maxMessageSize ≠ messageSizeUnlimited)
    (hroom : cfg.maxMessageSize.toNat ≤ receiver.maxMessageSize.toNat) (as : List DatagramAction)
    (has : ∀ a ∈ as, a.Holds) :
    let l := Runs.run (step cfg) (init now receiver) as
    (∀ a ∈ l.arrivals, UdpEvent.errors a.2 = [] ∧ (UdpEvent.messages a.2).flatten = a.1 ∧
      UdpEvent.messages a.2 <:+: l.accepted) ∧
    (∀ datagram ∈ l.onNetwork, ∃ ms, Delivers l.receiver datagram ms) ∧
    ((∀ a ∈ as, a.Continues) → ∃ mss, List.Forall₂ (Delivers l.receiver) l.sender.written mss ∧
      mss.flatten <+: l.accepted) := by
  intro l
  have hinv : l.Inv cfg receiver :=
    Runs.inv_run (I := Inv cfg receiver) (P := DatagramAction.Holds)
      (fun h ha => h.step hlimited hroom ha) (inv_init cfg now receiver) has
  refine ⟨hinv.arrivals, fun datagram hdatagram => ?_, fun hcontinues => ?_⟩
  · obtain ⟨ms, hdelivers, -⟩ := hinv.exists_delivers hlimited hroom hdatagram
    exact ⟨ms, hdelivers⟩
  · obtain ⟨mss, queue, packet, hwritten, -, -, haccepted⟩ :=
      (ordered_run cfg now receiver as hcontinues).inOrder
    have hprefix : mss.flatten <+: l.accepted := by
      change l.accepted = _ at haccepted
      rw [haccepted, List.append_assoc]
      exact List.prefix_append _ _
    obtain ⟨hlength, hpacked⟩ := List.forall₂_iff_get.mp hwritten
    refine ⟨mss, List.forall₂_iff_get.mpr ⟨hlength, fun i hi hi' => ?_⟩, hprefix⟩
    refine hinv.delivers hlimited hroom (hpacked i hi hi') fun m hm => hprefix.subset ?_
    exact List.mem_flatten.mpr ⟨_, List.get_mem mss ⟨i, hi'⟩, hm⟩

/-- A request without a payload. -/
def request : List UInt8 := [0x11, 0x11, 0, 1, 0, 0, 0, 8, 0, 1, 0, 1, 1, 1, 0, 0]

/-- Two requests are packed into one datagram, which arrives twice, with a datagram that is no message
in between. -/
theorem datagrams_delivered_repeated :
    let as : List DatagramAction := [.sender (.send request false),
      .sender (.send request true), .sender (.sendCbk 0 .success true), .arrive 0 false 3,
      .other .success [1, 2, 3] false 3, .arrive 0 false 3]
    let l := Runs.run (step ⟨1416, 100⟩) (init 0 ⟨[], 1416, true⟩) as
    (∀ a ∈ l.arrivals, UdpEvent.errors a.2 = [] ∧ (UdpEvent.messages a.2).flatten = a.1 ∧
      UdpEvent.messages a.2 <:+: l.accepted) ∧
    (∀ datagram ∈ l.onNetwork, ∃ ms, Delivers l.receiver datagram ms) ∧
    ((∀ a ∈ as, a.Continues) → ∃ mss, List.Forall₂ (Delivers l.receiver) l.sender.written mss ∧
      mss.flatten <+: l.accepted) :=
  datagrams_delivered ⟨1416, 100⟩ 0 ⟨[], 1416, true⟩ (by decide) (by decide) _ (by
    simp only [List.forall_mem_cons, DatagramAction.Holds]
    exact ⟨⟨⟨by decide, by decide⟩, by decide⟩, ⟨⟨by decide, by decide⟩, by decide⟩, trivial, trivial,
      trivial, trivial, by simp⟩)

example : ((Runs.run (step ⟨1416, 100⟩) (init 0 ⟨[], 1416, true⟩)
    [.sender (.send request false), .sender (.send request true), .arrive 0 false 3,
      .arrive 0 false 3]).arrivals.map fun a => UdpEvent.messages a.2) =
        [[request, request], [request, request]] := by
  decide

end UdpLink

end Vsomeip
