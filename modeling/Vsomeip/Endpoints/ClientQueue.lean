import Vsomeip.Endpoints.ClientEndpoint

set_option relaxedAutoImplicit false
set_option autoImplicit false

/-!
# The send queue of a client endpoint

Two properties of a client endpoint along every run. As long as writes succeed, the front of the
queue is being written whenever the queue is not empty; this breaks when `send` pushes the
packetizer to an empty queue and then refuses the message, because it returns before it starts a
write. And the size that is kept for the queue is that of its buffers; this breaks when a UDP
endpoint with bytes in its queue is restarted.

## Main definitions

* `Vsomeip.ClientAction.Strands` — the calls of `send` that leave a queue that nobody writes.
* `Vsomeip.ClientAction.Forgets` — the restarts that leave the size of a queue that is cleared.
* `Vsomeip.ClientEndpoint.Accounted` — the size is right, and so are refusals by the queue limit.

## Main results

* `Vsomeip.ClientEndpoint.established_writing_iff` — the queue is being written along a run exactly
  if no call strands it.
* `Vsomeip.ClientEndpoint.accounted_iff_not_forgets` — the size of the queue is right along a run
  exactly if no restart forgets it.
-/

namespace Vsomeip

namespace ClientEndpoint

variable {cfg : ClientConfig} {e : ClientEndpoint}

/-! ## Starting a write -/

/-- A magic cookie does not touch the writes, nor an empty queue. -/
lemma sendMagicCookie_spec (cfg : ClientConfig) (e : ClientEndpoint) :
    (sendMagicCookie cfg e).writes = e.writes ∧
      (sendMagicCookie cfg e).sendingBlocked = e.sendingBlocked ∧
      (sendMagicCookie cfg e).wasNotConnected = e.wasNotConnected ∧
      (e.toSendQueue.Counted → (sendMagicCookie cfg e).toSendQueue.Counted) := by
  unfold sendMagicCookie
  split
  · exact ⟨rfl, rfl, rfl, id⟩
  · rename_i buffer rest hq
    split_ifs
    · refine ⟨rfl, rfl, rfl, fun h => ?_⟩
      have h' : e.queueSize = (e.queue.map List.length).sum := h
      rw [hq, List.map_cons, List.sum_cons] at h'
      have hlen : clientCookie.length = 16 := rfl
      change e.queueSize + 16 = (((clientCookie ++ buffer) :: rest).map List.length).sum
      rw [List.map_cons, List.sum_cons, List.length_append]
      omega
    · exact ⟨rfl, rfl, rfl, id⟩

/-- `send_queued` on a queue of which nothing is being written starts to write its front. -/
lemma writing_sendQueued (h : e.writes = []) : (sendQueued cfg e).toSendQueue.Writing := by
  obtain ⟨hw, -⟩ := sendMagicCookie_spec cfg e
  simp only [sendQueued]
  split_ifs with hempty
  · rw [SendQueue.Writing, h, hempty]
    rfl
  · exact SendQueue.writing_startWrite (hw.trans h)
  · exact SendQueue.writing_startWrite h

/-- Starting a write changes no flag. -/
lemma flags_sendQueued (cfg : ClientConfig) (e : ClientEndpoint) :
    (sendQueued cfg e).sendingBlocked = e.sendingBlocked ∧
      (sendQueued cfg e).wasNotConnected = e.wasNotConnected := by
  obtain ⟨-, hb, hc, -⟩ := sendMagicCookie_spec cfg e
  simp only [sendQueued]
  split_ifs
  · exact ⟨rfl, rfl⟩
  · exact ⟨hb, hc⟩
  · exact ⟨rfl, rfl⟩

/-- Starting a write keeps the size right. -/
lemma counted_sendQueued (h : e.toSendQueue.Counted) : (sendQueued cfg e).toSendQueue.Counted := by
  obtain ⟨-, -, -, hcount⟩ := sendMagicCookie_spec cfg e
  simp only [sendQueued]
  split_ifs
  · exact h
  · exact (hcount h).startWrite
  · exact h.startWrite

end ClientEndpoint

/-! ## The queue is being written -/

/-- What happens to an endpoint that is established and not stopped as long as its writes
succeed. -/
def ClientAction.Regular : ClientAction → Prop
  | .send _ _ | .flush | .flushCbk _ | .connectCbk _ | .enableMagicCookies | .tick _ => True
  | .sendCbk _ error _ => error = .success
  | _ => False

/-- A call of `send` strands the queue: the queue is empty, the packetizer is pushed to it to make
room for the message, and the message is refused by the queue limit. -/
def ClientAction.Strands (cfg : ClientConfig) (e : ClientEndpoint) : ClientAction → Prop
  | .send data _ => e.sendingBlocked = false ∧ ¬ cfg.TooBig data ∧
      e.toSendQueue.Stranded cfg.toSendConfig data
  | _ => False

namespace ClientEndpoint

variable {cfg : ClientConfig} {e : ClientEndpoint}

/-- An endpoint that is not stopped, whose writes have succeeded so far, and of which the front of
the queue is being written. -/
structure Sending (e : ClientEndpoint) : Prop where
  unblocked : e.sendingBlocked = false
  connected : e.wasNotConnected = false
  writing : e.toSendQueue.Writing

/-- Starting a write when none is outstanding. -/
lemma sending_sendQueued (hb : e.sendingBlocked = false) (hc : e.wasNotConnected = false)
    (hw : e.writes = []) : (sendQueued cfg e).Sending := by
  obtain ⟨hblocked, hconnected⟩ := flags_sendQueued cfg e
  exact ⟨hblocked.trans hb, hconnected.trans hc, writing_sendQueued hw⟩

/-- A call of `send` that is let through, in terms of the send queue. -/
lemma send_of_unblocked (h : e.sendingBlocked = false) {data : List UInt8} (hbig : ¬ cfg.TooBig data)
    (flush : Bool) :
    (send cfg e data flush).1 =
      if (e.toSendQueue.enqueue cfg.toSendConfig data flush).2 = true ∧ e.queue = [] ∧
          (e.toSendQueue.enqueue cfg.toSendConfig data flush).1.queue ≠ [] then
        sendQueued cfg
          { e with toSendQueue := (e.toSendQueue.enqueue cfg.toSendConfig data flush).1 }
      else { e with toSendQueue := (e.toSendQueue.enqueue cfg.toSendConfig data flush).1 } := by
  simp only [send, h, Bool.false_eq_true, if_false, if_neg hbig]
  cases (e.toSendQueue.enqueue cfg.toSendConfig data flush).2 with
  | false => simp
  | true =>
    simp only [not_true_eq_false, if_false, true_and]
    split_ifs <;> rfl

/-- A call of `send` that does not strand the queue keeps it written.

**Proof sketch.** A message that is accepted starts a write if the queue was empty and is not empty
any more; in all other cases nothing has to be started. -/
lemma sending_send (h : e.Sending) (data : List UInt8) (flush : Bool)
    (hgood : ¬ (ClientAction.send data flush).Strands cfg e) :
    (send cfg e data flush).1.Sending := by
  by_cases hbig : cfg.TooBig data
  · rw [send, if_neg (by simp [h.unblocked]), if_pos hbig]
    exact h
  have hstranded : ¬ e.toSendQueue.Stranded cfg.toSendConfig data :=
    fun hs => hgood ⟨h.unblocked, hbig, hs⟩
  rw [send_of_unblocked h.unblocked hbig]
  split_ifs with hstart
  · refine sending_sendQueued h.unblocked h.connected ?_
    exact (SendQueue.enqueue_spec _ _ _ _).1.trans (h.writing.writes_eq_nil hstart.2.1)
  · refine ⟨h.unblocked, h.connected, ?_⟩
    cases haccepted : (e.toSendQueue.enqueue cfg.toSendConfig data flush).2 with
    | false => exact (h.writing.enqueue_refused_iff haccepted).mpr hstranded
    | true =>
      refine h.writing.enqueue ?_
      by_contra hq
      rw [not_or, not_not] at hq
      exact hstart ⟨haccepted, hq⟩

/-- A call of `send` that strands the queue leaves it with something in it that is not being
written. -/
lemma not_writing_send (h : e.Sending) (data : List UInt8) (flush : Bool)
    (hbad : (ClientAction.send data flush).Strands cfg e) :
    (send cfg e data flush).1.queue ≠ [] ∧ ¬ (send cfg e data flush).1.toSendQueue.Writing := by
  obtain ⟨hblocked, hbig, hstranded⟩ := hbad
  have hrefused : (e.toSendQueue.enqueue cfg.toSendConfig data flush).2 = false := by
    by_contra haccepted
    exact SendQueue.not_stranded_of_accepted (by simpa using haccepted) hstranded
  rw [send_of_unblocked hblocked hbig, if_neg (by simp [hrefused])]
  exact ⟨(SendQueue.stranded_iff hrefused hstranded.1).mp hstranded,
    fun hw => (h.writing.enqueue_refused_iff hrefused).mp hw hstranded⟩

/-- `flush` starts a write exactly if the queue was empty. -/
lemma sending_flush (h : e.Sending) : (flush cfg e).1.Sending := by
  simp only [flush]
  split_ifs with hp hlen
  · refine sending_sendQueued h.unblocked h.connected (h.writing.writes_eq_nil ?_)
    simpa [SendQueue.pushPacketizer] using hlen
  · refine ⟨h.unblocked, h.connected, h.writing.of_append ?_ rfl rfl⟩
    rintro hempty
    simp [SendQueue.pushPacketizer, hempty] at hlen
  · exact h

/-- The callback of a write that has succeeded goes on with the next buffer. -/
lemma sending_sendCbk (h : e.Sending) {i : ℕ} (hi : i < e.writes.length) (opened : Bool) :
    (sendCbk cfg { e with toSendQueue := e.toSendQueue.complete i } .success opened).Sending := by
  cases hq : e.queue with
  | nil =>
    rw [h.writing.writes_eq_nil hq] at hi
    simp at hi
  | cons b rest =>
    obtain rfl : i = 0 := by
      have hw : e.writes = [b] := by rw [h.writing, hq]; rfl
      rw [hw] at hi
      simpa using hi
    have hne : (e.toSendQueue.complete 0).queue ≠ [] := by simp [SendQueue.complete, hq]
    simp only [sendCbk, if_pos hne]
    exact sending_sendQueued h.unblocked h.connected (h.writing.complete hq).1

/-- A step that is regular and does not strand the queue keeps it written. -/
lemma sending_step (h : e.Sending) {a : ClientAction} (hreg : a.Regular)
    (hgood : ¬ a.Strands cfg e) : (step cfg e a).Sending := by
  cases a with
  | send data flush => exact sending_send h data flush hgood
  | flush => exact sending_flush h
  | flushCbk error =>
    simp only [step, flushCbk]
    split_ifs
    · exact sending_flush h
    · exact h
  | sendCbk i error opened =>
    obtain rfl : error = .success := hreg
    simp only [step, if_true]
    split_ifs with hi
    · exact sending_sendCbk h hi opened
    · exact h
  | connectCbk error =>
    simp only [step, connectCbk, h.connected, Bool.false_eq_true, and_false, if_false]
    split_ifs
    · exact h
    · exact ⟨h.unblocked, rfl, h.writing⟩
    · exact h
    · exact h
  | enableMagicCookies => exact ⟨h.unblocked, h.connected, h.writing⟩
  | tick nanoseconds => exact ⟨h.unblocked, h.connected, h.writing⟩
  | waitConnectCbk _ _ => exact hreg.elim
  | stop => exact hreg.elim
  | restart => exact hreg.elim
  | setConnected _ => exact hreg.elim

/-- Along every regular run, the queue is being written exactly if no call strands it. -/
lemma writing_iff_of_sending (cfg : ClientConfig) {e : ClientEndpoint} (h : e.Sending)
    {as : List ClientAction} (hreg : Runs.Along (step cfg) (fun _ a => a.Regular) e as) :
    Runs.Along (step cfg)
        (fun e a => (step cfg e a).queue ≠ [] → (step cfg e a).toSendQueue.Writing) e as ↔
      Runs.Along (step cfg) (fun e a => ¬ a.Strands cfg e) e as := by
  refine Runs.along_iff (fun h hreg hgood => ?_) (fun {e a} h _ hbad => ?_) h hreg
  · have hs := sending_step h hreg hgood
    exact ⟨hs, fun _ => hs.writing⟩
  · cases a with
    | send data flush =>
      obtain ⟨hne, hw⟩ := not_writing_send h data flush (not_not.mp hbad)
      exact fun hq => hw (hq hne)
    | _ => exact absurd not_false hbad

/-- A new endpoint that was connected by its host. -/
def established (now : ℤ) : ClientEndpoint := setConnected (init now) true

/-- A connection that is established sends. -/
lemma sending_established (now : ℤ) : (established now).Sending :=
  ⟨rfl, rfl, show ([] : List (List UInt8)) = [].take 1 from rfl⟩

/-- On an endpoint that is established and not stopped, whatever is sent and in whichever order the
flushes and the callbacks come: along a run, exactly one write is outstanding whenever the queue is
not empty, that of its front, if and only if no call of `send` strands the queue. -/
theorem established_writing_iff (cfg : ClientConfig) (now : ℤ) (as : List ClientAction)
    (hreg : ∀ a ∈ as, a.Regular) :
    Runs.Along (step cfg)
        (fun e a => (step cfg e a).queue ≠ [] → (step cfg e a).toSendQueue.Writing)
        (established now) as ↔
      Runs.Along (step cfg) (fun e a => ¬ a.Strands cfg e) (established now) as :=
  writing_iff_of_sending cfg (sending_established now) (Runs.along_of_forall hreg)

/-- A TCP endpoint for messages of 40 bytes with a queue limit of 50 bytes. -/
def smallTcp : ClientConfig := { maxMessageSize := 40, queueLimit := 50, protocol := .tcp }

/-- Two messages that are flushed, and the callbacks of their writes. -/
theorem established_writing_flushed :
    Runs.Along (step smallTcp)
      (fun e a => (step smallTcp e a).queue ≠ [] → (step smallTcp e a).toSendQueue.Writing)
      (established 0)
      [.send (List.replicate 16 0) true, .send (List.replicate 24 1) true, .sendCbk 0 .success true,
        .sendCbk 0 .success true] := by
  refine (established_writing_iff smallTcp 0 _ ?_).mpr ?_
  · intro a ha
    simp only [List.mem_cons, List.not_mem_nil, or_false] at ha
    rcases ha with rfl | rfl | rfl | rfl
    · trivial
    · trivial
    · rfl
    · rfl
  · exact ⟨fun h => absurd h.2.2.2.1 (by decide), fun h => absurd h.2.2.2.1 (by decide), id, id,
      trivial⟩

/-- A message of 32 bytes waits in the packetizer; one of 24 bytes is refused behind it, and leaves
it in the queue with no write outstanding. -/
theorem not_established_writing_refused :
    ¬ ∀ (cfg : ClientConfig) (now : ℤ) (as : List ClientAction), (∀ a ∈ as, a.Regular) →
      Runs.Along (step cfg)
        (fun e a => (step cfg e a).queue ≠ [] → (step cfg e a).toSendQueue.Writing)
        (established now) as := by
  intro h
  have hrun := h smallTcp 0 [.send (List.replicate 32 0) false, .send (List.replicate 24 1) false]
    (by
      intro a ha
      simp only [List.mem_cons, List.not_mem_nil, or_false] at ha
      rcases ha with rfl | rfl
      · trivial
      · trivial)
  obtain ⟨-, hlast, -⟩ := hrun
  revert hlast
  simp only [SendQueue.Writing]
  decide

end ClientEndpoint

/-! ## The size of the queue -/

/-- A restart forgets the size of the queue: a UDP endpoint that is not being connected is restarted
with bytes in its queue. -/
def ClientAction.Forgets (cfg : ClientConfig) (e : ClientEndpoint) : ClientAction → Prop
  | .restart => cfg.protocol = .udp ∧ e.state ≠ .connecting ∧ e.queued ≠ 0
  | _ => False

namespace ClientEndpoint

variable {cfg : ClientConfig} {e : ClientEndpoint}

/-- The size that is kept for the queue is that of its buffers, and the queue limit refuses a
message only if the bytes that are queued when it is looked at and the message together exceed
it. -/
def Accounted (cfg : ClientConfig) (e : ClientEndpoint) : Prop :=
  e.queueSize = e.queued ∧ ∀ data : List UInt8,
    (e.toSendQueue.makeRoom cfg.toSendConfig data.length).limitReached cfg.toSendConfig data.length →
      (e.toSendQueue.makeRoom cfg.toSendConfig data.length).queued + data.length >
        cfg.queueLimit.toNat

/-- The second part follows from the first. -/
lemma accounted_iff : e.Accounted cfg ↔ e.toSendQueue.Counted := by
  refine ⟨fun h => h.1, fun h => ⟨h, fun data hlimit => ?_⟩⟩
  have hroom : (e.toSendQueue.makeRoom cfg.toSendConfig data.length).queueSize =
      (e.toSendQueue.makeRoom cfg.toSendConfig data.length).queued := h.makeRoom _ _
  rw [← hroom]
  exact hlimit.2

/-- `send` keeps the size right. -/
lemma counted_send (h : e.toSendQueue.Counted) (data : List UInt8) (flush : Bool) :
    (send cfg e data flush).1.toSendQueue.Counted := by
  have hq := h.enqueue cfg.toSendConfig data flush
  have hq' : ({ e with
      toSendQueue := (e.toSendQueue.enqueue cfg.toSendConfig data flush).1 } :
        ClientEndpoint).toSendQueue.Counted := hq
  simp only [send]
  split_ifs
  · exact h
  · exact h
  · exact counted_sendQueued hq'
  · exact hq'
  · exact hq'

/-- `flush` keeps the size right. -/
lemma counted_flush (h : e.toSendQueue.Counted) : (flush cfg e).1.toSendQueue.Counted := by
  simp only [flush]
  split_ifs
  · exact counted_sendQueued h.pushPacketizer
  · exact h.pushPacketizer
  · exact h

/-- Connecting does not touch the queue. -/
lemma connect_toSendQueue (cfg : ClientConfig) (e : ClientEndpoint) (opened : Bool) :
    (connect cfg e opened).toSendQueue = e.toSendQueue := by
  unfold connect
  split_ifs <;> rfl

/-- A queue that is cleared with its size. -/
lemma counted_clearQueue (e : ClientEndpoint) : (clearQueue e).toSendQueue.Counted := rfl

/-- The callback of a write keeps the size right. -/
lemma counted_sendCbk (h : e.toSendQueue.Counted) (error : ErrorCode) (opened : Bool) :
    (sendCbk cfg e error opened).toSendQueue.Counted := by
  unfold sendCbk
  split
  · split_ifs
    · exact counted_sendQueued h.popFront
    · exact h
  · rw [connect_toSendQueue]
    split_ifs
    · exact counted_clearQueue e
    · exact h
  · rw [connect_toSendQueue]
    exact h
  · rw [connect_toSendQueue]
    exact h
  · exact h

/-- A restart keeps the size of the queue right exactly if it does not forget it. -/
lemma counted_restart_iff (h : e.toSendQueue.Counted) :
    (restart cfg e).toSendQueue.Counted ↔ ¬ ClientAction.restart.Forgets cfg e := by
  by_cases hstate : e.state = .connecting
  · rw [restart, if_pos hstate]
    exact iff_of_true h fun hf => hf.2.1 hstate
  · rw [restart, if_neg hstate]
    cases hp : cfg.protocol with
    | udp =>
      have hcount : e.queueSize = e.queued := h
      simp only [ClientAction.Forgets, hp, hstate, ← hcount, ne_eq, true_and,
        not_false_eq_true, not_not]
      rfl
    | tcp => exact iff_of_true (counted_clearQueue e) fun hf => absurd (hp.symm.trans hf.1) (by decide)
    | localStream =>
      exact iff_of_true (counted_clearQueue e) fun hf => absurd (hp.symm.trans hf.1) (by decide)

/-- A step keeps the size of the queue right exactly if it does not forget it. -/
lemma counted_step_iff (h : e.toSendQueue.Counted) (a : ClientAction) :
    (step cfg e a).toSendQueue.Counted ↔ ¬ a.Forgets cfg e := by
  cases a with
  | restart => exact counted_restart_iff h
  | send data flush => exact iff_of_true (counted_send h data flush) id
  | flush => exact iff_of_true (counted_flush h) id
  | flushCbk error =>
    refine iff_of_true ?_ id
    simp only [step, flushCbk]
    split_ifs
    · exact counted_flush h
    · exact h
  | sendCbk i error opened =>
    refine iff_of_true ?_ id
    simp only [step]
    split_ifs
    · exact counted_sendCbk (e := { e with toSendQueue := e.toSendQueue.complete i }) h _ _
    · exact counted_sendCbk (e := { e with toSendQueue := e.toSendQueue.fail i }) h _ _
    · exact h
  | connectCbk error =>
    refine iff_of_true ?_ id
    simp only [step, connectCbk]
    split_ifs
    · exact h
    · exact h
    · exact h
    · exact counted_sendQueued h
    · exact h
  | waitConnectCbk error opened =>
    refine iff_of_true ?_ id
    simp only [step, waitConnectCbk]
    split_ifs
    · rw [connect_toSendQueue]
      exact h
    · exact h
  | stop =>
    refine iff_of_true ?_ id
    simp only [step, stop]
    split
    · exact h
    · exact counted_clearQueue e
  | setConnected connected => exact iff_of_true h id
  | enableMagicCookies => exact iff_of_true h id
  | tick nanoseconds => exact iff_of_true h id

/-- Along every run of a new client endpoint of any protocol, with all its calls and callbacks in
any order: the size that is kept for the queue is right, and so are the refusals by the queue limit,
if and only if no restart forgets the size of the queue. -/
theorem accounted_iff_not_forgets (cfg : ClientConfig) (now : ℤ) (as : List ClientAction) :
    Runs.Along (step cfg) (fun e a => (step cfg e a).Accounted cfg) (init now) as ↔
      Runs.Along (step cfg) (fun e a => ¬ a.Forgets cfg e) (init now) as := by
  have hinit : (init now).toSendQueue.Counted := rfl
  simp only [accounted_iff]
  refine @Runs.along_iff _ _ (step cfg) (fun e => e.toSendQueue.Counted) (fun _ _ => True) _ _
    (fun {e a} h _ hgood => ?_) (fun {e a} h _ hbad => ?_) as _ hinit
    (Runs.along_of_forall fun _ _ => trivial)
  · have hstep := (counted_step_iff h a).mpr hgood
    exact ⟨hstep, hstep⟩
  · exact fun hstep => hbad ((counted_step_iff h a).mp hstep)

/-- A UDP endpoint with a queue limit of 40 bytes. -/
def smallUdp : ClientConfig := { maxMessageSize := 1416, queueLimit := 40, protocol := .udp }

/-- A UDP endpoint is restarted while a message of 32 bytes is in its queue. The queue is empty then,
but a message of 16 bytes is refused by the limit of 40 bytes. -/
theorem not_accounted_restart :
    ¬ (∀ (cfg : ClientConfig) (now : ℤ) (as : List ClientAction),
        Runs.Along (step cfg) (fun e a => (step cfg e a).Accounted cfg) (init now) as) ∧
      (Runs.run (step smallUdp) (init 0) [.setConnected true, .send (List.replicate 32 0) true,
        .restart]).queue = [] ∧
      (send smallUdp (Runs.run (step smallUdp) (init 0) [.setConnected true,
        .send (List.replicate 32 0) true, .restart]) (List.replicate 16 1) true).2 = false := by
  refine ⟨fun h => ?_, by decide, by decide⟩
  have hrun := h smallUdp 0 [.setConnected true, .send (List.replicate 32 0) true, .restart]
  obtain ⟨-, -, hlast, -⟩ := hrun
  have hcount := hlast.1
  revert hcount
  decide

end ClientEndpoint

end Vsomeip
