import Mathlib.Logic.Function.Basic
import Vsomeip.Lib.Runs
import Vsomeip.Endpoints.SendQueue

set_option relaxedAutoImplicit false
set_option autoImplicit false

/-!
# Sending on server endpoints

`server_endpoint_impl::send_intern`, `flush`, `flush_cbk` and `send_cbk`, with the `send_queued` of
`udp_server_endpoint_impl`. All of them work on the packetizer and the queue of one target, so the
endpoint is a family of send queues; a target that is in none of the maps has an empty one.

The flush timer is not modelled: its callback can come for any target at any time. It starts a write
of the front of the queue if there is one, even if that is being written already, and does not look
at the packetizer.

## Main definitions

* `Vsomeip.ServerTarget` — what the endpoint keeps for a target, and the messages accepted for it.
* `Vsomeip.ServerTarget.sendIntern`, `flush`, `sendCbk` — the functions of the endpoint.
* `Vsomeip.ServerTarget.InOrder` — every accepted message is handed to the socket once and in order.

## Main results

* `Vsomeip.ServerEndpoint.serves_iff` — this holds along a run exactly if the flush timer never
  fires for a target with anything to send, and no message is refused behind a packetizer that is
  pushed to an empty queue.
-/

namespace Vsomeip

/-- The packetizer and the queue of a target, and the messages for which `send_intern` has returned
true. -/
structure ServerTarget extends SendQueue where
  accepted : List (List UInt8)

namespace ServerTarget

/-- A target that nothing was sent to. -/
def empty : ServerTarget := { SendQueue.empty with accepted := [] }

/-- `server_endpoint_impl::send_intern`. -/
def sendIntern (cfg : SendConfig) (t : ServerTarget) (data : List UInt8) (flush : Bool) :
    ServerTarget × Bool :=
  if cfg.TooBig data then (t, false)
  else
    let (q, accepted) := t.toSendQueue.enqueue cfg data flush
    if ¬ accepted then ({ t with toSendQueue := q }, false)
    else
      let q' := if t.queue = [] ∧ q.queue ≠ [] then q.startWrite else q
      ({ t with toSendQueue := q', accepted := t.accepted ++ [data] }, true)

/-- `server_endpoint_impl::flush`. -/
def flush (t : ServerTarget) : ServerTarget × Bool :=
  if t.queue ≠ [] then ({ t with toSendQueue := t.toSendQueue.startWrite }, true) else (t, false)

/-- `server_endpoint_impl::flush_cbk`. -/
def flushCbk (t : ServerTarget) (error : ErrorCode) : ServerTarget :=
  if error = .success then t.flush.1 else t

/-- `server_endpoint_impl::send_cbk`. An error deletes the queue. -/
def sendCbk (t : ServerTarget) (error : ErrorCode) : ServerTarget :=
  if error = .success then { t with toSendQueue := t.toSendQueue.popFront.startWrite }
  else { t with queue := [], queueSize := 0 }

end ServerTarget

/-- What happens to a target: a call of `send_intern`, the flush timer, or the callback of the
`i`-th outstanding write. -/
inductive ServerAction
  | sendIntern (data : List UInt8) (flush : Bool)
  | flushCbk (error : ErrorCode)
  | sendCbk (i : ℕ) (error : ErrorCode)

/-- A target as a state machine. There is no callback without an outstanding write. -/
def ServerTarget.step (cfg : SendConfig) (t : ServerTarget) : ServerAction → ServerTarget
  | .sendIntern data flush => (t.sendIntern cfg data flush).1
  | .flushCbk error => t.flushCbk error
  | .sendCbk i error =>
    if i < t.writes.length then
      let q := if error = .success then t.toSendQueue.complete i else t.toSendQueue.fail i
      ServerTarget.sendCbk { t with toSendQueue := q } error
    else t

/-- A server endpoint: what it keeps for its targets. -/
structure ServerEndpoint (Target : Type) where
  targets : Target → ServerTarget

namespace ServerEndpoint

variable {Target : Type} [DecidableEq Target]

/-- A new endpoint. -/
def init : ServerEndpoint Target := { targets := fun _ => .empty }

/-- An endpoint as a state machine: an action concerns one target. -/
def step (cfg : SendConfig) (s : ServerEndpoint Target) (a : Target × ServerAction) :
    ServerEndpoint Target :=
  { targets := Function.update s.targets a.1 ((s.targets a.1).step cfg a.2) }

/-- A step changes the queue of its target. -/
@[simp] lemma targets_step_self (cfg : SendConfig) (s : ServerEndpoint Target)
    (a : Target × ServerAction) : (step cfg s a).targets a.1 = (s.targets a.1).step cfg a.2 :=
  Function.update_self ..

/-- A step keeps the queues of other targets. -/
lemma targets_step_of_ne (cfg : SendConfig) (s : ServerEndpoint Target) {a : Target × ServerAction}
    {t : Target} (h : t ≠ a.1) : (step cfg s a).targets t = s.targets t :=
  Function.update_of_ne h ..

end ServerEndpoint

/-! ## Messages are handed over in order -/

namespace ServerTarget

/-- At most one write is outstanding, one if there is something in the queue; and what was handed to
the socket, followed by the rest of the queue and the packetizer, are the accepted messages: each is
handed over once, in the order of acceptance. -/
structure InOrder (t : ServerTarget) : Prop where
  atMostOne : t.writes.length ≤ 1
  progress : t.queue ≠ [] → t.writes ≠ []
  handed : (t.written ++ t.writes).flatten ++ t.queue.tail.flatten ++ t.packetizer =
    t.accepted.flatten

/-- What is kept of a target along a run in which nothing goes wrong. -/
structure Sending (t : ServerTarget) : Prop where
  writing : t.toSendQueue.Writing
  bytes : t.toSendQueue.bytes = t.accepted.flatten

/-- A target that sends is in order. -/
lemma Sending.inOrder {t : ServerTarget} (h : t.Sending) : t.InOrder := by
  have hw : t.writes = t.queue.take 1 := h.writing
  have hbytes := h.bytes
  simp only [SendQueue.bytes] at hbytes
  cases hq : t.queue with
  | nil =>
    rw [hq, List.take_nil] at hw
    refine ⟨by simp [hw], fun hne => absurd hq hne, ?_⟩
    simpa [hw, hq] using hbytes
  | cons b rest =>
    have hw' : t.writes = [b] := by rw [hw, hq]; rfl
    refine ⟨by simp [hw'], fun _ => by simp [hw'], ?_⟩
    simpa [hw', hq] using hbytes

/-- An empty queue sends. -/
lemma sending_empty : ServerTarget.empty.Sending := ⟨rfl, rfl⟩

end ServerTarget

/-- The callbacks of the writes report success. -/
def ServerAction.Regular : ServerAction → Prop
  | .sendCbk _ error => error = .success
  | _ => True

/-- Nothing goes wrong with an action: a call of `send_intern` does not strand the queue, and the
flush timer fires for a target only if its queue and its packetizer are empty. -/
def ServerAction.Harmless (cfg : SendConfig) (t : ServerTarget) : ServerAction → Prop
  | .sendIntern data _ => cfg.TooBig data ∨ ¬ t.toSendQueue.Stranded cfg data
  | .flushCbk error => error = .success → t.queue = [] ∧ t.packetizer = []
  | .sendCbk _ _ => True

/-- What is asked of an action: messages are handed over in order, and the flush timer leaves nothing
in the packetizer. -/
def ServerAction.Serves (cfg : SendConfig) (t : ServerTarget) (a : ServerAction) : Prop :=
  (t.step cfg a).InOrder ∧ (a = .flushCbk .success → (t.step cfg a).packetizer = [])

namespace ServerTarget

variable {cfg : SendConfig} {t : ServerTarget}

/-- A call of `send_intern` that does not strand the queue.

**Proof sketch.** An accepted message starts a write if the queue was empty and is not empty any
more; in all other cases nothing has to be started. Its bytes stand behind those of the messages
before it. -/
lemma sending_sendIntern (h : t.Sending) (data : List UInt8) (flush : Bool)
    (hgood : (ServerAction.sendIntern data flush).Harmless cfg t) :
    (t.sendIntern cfg data flush).1.Sending := by
  have hbytes := SendQueue.bytes_enqueue cfg t.toSendQueue data flush
  rw [h.bytes] at hbytes
  unfold sendIntern
  by_cases hbig : cfg.TooBig data
  · rw [if_pos hbig]
    exact h
  have hstranded := hgood.resolve_left hbig
  rw [if_neg hbig]
  dsimp only
  cases haccepted : (t.toSendQueue.enqueue cfg data flush).2 with
  | false =>
    rw [haccepted, if_neg (by simp), List.append_nil] at hbytes
    rw [if_pos (by simp)]
    exact ⟨(h.writing.enqueue_refused_iff haccepted).mpr hstranded, hbytes⟩
  | true =>
    have hflat : t.accepted.flatten ++ data = (t.accepted ++ [data]).flatten := by simp
    rw [haccepted, if_pos rfl, hflat] at hbytes
    rw [if_neg (by simp)]
    split_ifs with hstart
    · refine ⟨SendQueue.writing_startWrite ?_, ?_⟩
      · exact (SendQueue.enqueue_spec cfg t.toSendQueue data flush).1.trans
          (h.writing.writes_eq_nil hstart.1)
      · rw [← hbytes]
        exact SendQueue.bytes_startWrite _
    · refine ⟨h.writing.enqueue ?_, hbytes⟩
      by_contra hq
      rw [not_or, not_not] at hq
      exact hstart hq

/-- A call of `send_intern` that strands the queue leaves it with nothing that will send it. -/
lemma not_inOrder_sendIntern (h : t.Sending) (data : List UInt8) (flush : Bool)
    (hbad : ¬ (ServerAction.sendIntern data flush).Harmless cfg t) :
    ¬ (t.sendIntern cfg data flush).1.InOrder := by
  obtain ⟨hbig, hstranded⟩ := not_or.mp hbad
  rw [not_not] at hstranded
  have hrefused : (t.toSendQueue.enqueue cfg data flush).2 = false := by
    by_contra haccepted
    exact SendQueue.not_stranded_of_accepted (by simpa using haccepted) hstranded
  have heq : (t.sendIntern cfg data flush).1 =
      { t with toSendQueue := (t.toSendQueue.enqueue cfg data flush).1 } := by
    unfold sendIntern
    rw [if_neg hbig]
    simp [hrefused]
  rw [heq]
  intro horder
  refine horder.progress ((SendQueue.stranded_iff hrefused hstranded.1).mp hstranded) ?_
  exact (SendQueue.enqueue_spec cfg t.toSendQueue data flush).1.trans
    (h.writing.writes_eq_nil hstranded.1)

/-- The callback of a write that has succeeded goes on with the next buffer. -/
lemma sending_sendCbk (h : t.Sending) {i : ℕ} (hi : i < t.writes.length) :
    (ServerTarget.sendCbk { t with toSendQueue := t.toSendQueue.complete i } .success).Sending := by
  cases hq : t.queue with
  | nil =>
    rw [h.writing.writes_eq_nil hq] at hi
    simp at hi
  | cons b rest =>
    obtain rfl : i = 0 := by
      have hw : t.writes = [b] := by rw [h.writing, hq]; rfl
      rw [hw] at hi
      simpa using hi
    obtain ⟨hwrites, -, hbytes⟩ := h.writing.complete hq
    rw [sendCbk, if_pos rfl]
    refine ⟨SendQueue.writing_startWrite hwrites, ?_⟩
    exact (SendQueue.bytes_startWrite _).trans (hbytes.trans h.bytes)

/-- The flush timer for a target with nothing to send. -/
lemma flush_of_nil (hq : t.queue = []) : t.flush.1 = t := by
  rw [flush, if_neg (not_not.mpr hq)]

/-- A step of a target serves exactly if it is harmless. -/
lemma serves_of_harmless (h : t.Sending) {a : ServerAction} (hreg : a.Regular)
    (hgood : a.Harmless cfg t) : (t.step cfg a).Sending ∧ a.Serves cfg t := by
  have hsending : (t.step cfg a).Sending := by
    cases a with
    | sendIntern data flush => exact sending_sendIntern h data flush hgood
    | flushCbk error =>
      simp only [step, flushCbk]
      split_ifs with herror
      · rw [flush_of_nil (hgood herror).1]
        exact h
      · exact h
    | sendCbk i error =>
      obtain rfl : error = .success := hreg
      simp only [step, if_true]
      split_ifs with hi
      · exact sending_sendCbk h hi
      · exact h
  refine ⟨hsending, hsending.inOrder, ?_⟩
  rintro rfl
  obtain ⟨hq, hp⟩ := hgood rfl
  simp only [step, flushCbk, if_true, flush_of_nil hq, hp]

/-- A step that is not harmless does not serve: the flush timer either starts a second write of a
queue that is being written, or leaves the packetizer as it is. -/
lemma not_serves_of_not_harmless (h : t.Sending) {a : ServerAction} (hbad : ¬ a.Harmless cfg t) :
    ¬ a.Serves cfg t := by
  cases a with
  | sendIntern data flush => exact fun hs => not_inOrder_sendIntern h data flush hbad hs.1
  | sendCbk i error => exact absurd trivial hbad
  | flushCbk error =>
    simp only [ServerAction.Harmless, Classical.not_imp, not_and_or] at hbad
    obtain ⟨rfl, hne⟩ := hbad
    rintro ⟨horder, hpack⟩
    have hpack := hpack rfl
    simp only [step, flushCbk, if_true] at horder hpack
    cases hq : t.queue with
    | nil =>
      rw [flush_of_nil hq] at hpack
      exact hne.elim (fun h => h hq) fun h => h hpack
    | cons b rest =>
      have hone := horder.atMostOne
      have hw : t.writes = [b] := by rw [h.writing, hq]; rfl
      simp [flush, hq, SendQueue.startWrite, hw] at hone

end ServerTarget

namespace ServerEndpoint

variable {Target : Type} [DecidableEq Target]

/-- What is asked of an action on a target: messages of all targets are handed over in order, and the
flush timer leaves nothing in the packetizer of its target. -/
def Serves (cfg : SendConfig) (s : ServerEndpoint Target) (a : Target × ServerAction) : Prop :=
  (∀ t, ((step cfg s a).targets t).InOrder) ∧
    (a.2 = .flushCbk .success → ((step cfg s a).targets a.1).packetizer = [])

/-- For any number of targets, and for any order of the calls of `send_intern`, the expiries of the
flush timer and the callbacks of successful writes: along a run, at most one write is outstanding
for a target, accepted messages are handed over once and in order, and the flush timer leaves
nothing in the packetizer, if and only if every action of the run is harmless. -/
theorem serves_iff (cfg : SendConfig) (as : List (Target × ServerAction))
    (hreg : ∀ a ∈ as, a.2.Regular) :
    Runs.Along (step cfg) (Serves cfg) init as ↔
      Runs.Along (step cfg) (fun s a => a.2.Harmless cfg (s.targets a.1)) init as := by
  refine @Runs.along_iff _ _ (step cfg) (fun s => ∀ t, (s.targets t).Sending) (fun _ a => a.2.Regular) _ _
    (fun {s a} h hreg hgood => ?_) (fun {s a} h _ hbad hs => ?_) as init
    (fun _ => ServerTarget.sending_empty) (Runs.along_of_forall hreg)
  · obtain ⟨hsending, hserves⟩ := ServerTarget.serves_of_harmless (h a.1) hreg hgood
    have hall : ∀ t, ((step cfg s a).targets t).Sending := by
      intro t
      by_cases ht : t = a.1
      · subst ht
        rw [targets_step_self]
        exact hsending
      · rw [targets_step_of_ne cfg s ht]
        exact h t
    refine ⟨hall, fun t => (hall t).inOrder, fun hflush => ?_⟩
    rw [targets_step_self]
    exact hserves.2 hflush
  · refine ServerTarget.not_serves_of_not_harmless (h a.1) hbad ⟨?_, fun hflush => ?_⟩
    · have horder := hs.1 a.1
      rwa [targets_step_self] at horder
    · have hpack := hs.2 hflush
      rwa [targets_step_self] at hpack

/-- A UDP endpoint without a queue limit. -/
def unlimited : SendConfig := { maxMessageSize := 1416, queueLimit := queueSizeUnlimited }

/-- Messages to two targets, the second one of the first target without a flush. -/
theorem serves_two_targets :
    Runs.Along (step unlimited) (Serves unlimited) (init : ServerEndpoint ℕ)
      [(0, .sendIntern [1, 2] true), (1, .sendIntern [3] true), (0, .sendIntern [4] false),
        (0, .sendIntern [5] true), (0, .sendCbk 0 .success), (0, .sendCbk 0 .success)] := by
  refine (serves_iff unlimited _ ?_).mpr ?_
  · intro a ha
    simp only [List.mem_cons, List.not_mem_nil, or_false] at ha
    rcases ha with rfl | rfl | rfl | rfl | rfl | rfl
    · trivial
    · trivial
    · trivial
    · trivial
    · rfl
    · rfl
  · have hlimit (t : ServerTarget) (data : List UInt8) :
        ¬ t.toSendQueue.Stranded unlimited data := fun h => h.2.2.2.1 rfl
    exact ⟨Or.inr (hlimit _ _), Or.inr (hlimit _ _), Or.inr (hlimit _ _), Or.inr (hlimit _ _),
      trivial, trivial, trivial⟩

/-- A message is being written and a second one waits in the packetizer. The flush timer starts a
second write of the first message and leaves the second one where it is. -/
theorem not_serves_flushCbk :
    ¬ ∀ (cfg : SendConfig) (as : List (ℕ × ServerAction)), (∀ a ∈ as, a.2.Regular) →
      Runs.Along (step cfg) (Serves cfg) init as := by
  intro h
  have hrun := h unlimited [(0, .sendIntern [1, 2] true), (0, .sendIntern [3] false),
      (0, .flushCbk .success)] (by
    intro a ha
    simp only [List.mem_cons, List.not_mem_nil, or_false] at ha
    rcases ha with rfl | rfl | rfl
    · trivial
    · trivial
    · trivial)
  obtain ⟨-, -, hlast, -⟩ := hrun
  have hone := (hlast.1 0).atMostOne
  revert hone
  decide

end ServerEndpoint

end Vsomeip
