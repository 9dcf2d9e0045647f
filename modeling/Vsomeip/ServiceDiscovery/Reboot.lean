import Mathlib.Data.List.Induction
import Mathlib.Data.List.InsertIdx
import Mathlib.Data.Nat.Init
import Vsomeip.Lib.Runs
import Vsomeip.ServiceDiscovery.Session

set_option relaxedAutoImplicit false
set_option autoImplicit false

/-!
# Reboot detection over a network

A sender and a receiver of service discovery, with the messages on their way between them. The
messages of one channel arrive in the order in which they were sent, but any of them can be lost, and
the two channels are independent of each other. The sender can restart, which empties its
`sessions_sent_`; messages that it has sent before may still be on their way then.

A message is marked with the number of restarts before it was sent. Neither party sees the mark: it
serves to say which of the receptions the receiver should take for a reboot.

## Main definitions

* `Vsomeip.Session.Network`, `Event`, `Network.step` — the two parties and the channels.
* `Vsomeip.Session.Reception` — a message that was received and what `is_reboot` said about it.
* `Vsomeip.Session.FirstSign` — the first message from after the restart on a channel on which the
  receiver had got one from before it.
* `Vsomeip.Session.Steady`, `Restarted` — the invariant of a channel before and after the restart.

## Main results

* `Vsomeip.Session.verdicts_run` — in a run with one restart and without losses, a reboot is
  reported for exactly those messages from after the restart that follow an older one of their
  channel, with no report in between.
* `Vsomeip.Session.reboot_detection` — without a restart none is reported, and a restart is
  reported once, if no older message comes after the report.
-/

namespace Vsomeip

namespace Session

variable {Address : Type} {isMulticast : Address → Bool}

/-! ## The network -/

/-- The address of a sender and the two addresses at which the receiver listens. -/
structure Link (isMulticast : Address → Bool) where
  sender : Address
  unicast : Address
  multicast : Address
  isMulticast_unicast : isMulticast unicast = false
  isMulticast_multicast : isMulticast multicast = true

/-- The destination of the messages of a channel. -/
def Link.address (l : Link isMulticast) : Channel → Address
  | .multicast => l.multicast
  | .unicast => l.unicast

/-- The address of a channel is a multicast address exactly for the multicast channel. -/
lemma Link.isMulticast_address (l : Link isMulticast) (c : Channel) :
    isMulticast (l.address c) = (c == .multicast) := by
  cases c
  · exact l.isMulticast_multicast
  · exact l.isMulticast_unicast

/-- A message on its way: its number, and how often the sender had restarted before it was sent. -/
structure Packet where
  number : Number
  epoch : ℕ

/-- A message that was received, with the result of `is_reboot`. -/
structure Reception where
  channel : Channel
  epoch : ℕ
  reboot : Bool
  deriving DecidableEq

/-- The maps of the sender and of the receiver, the messages on their way, and those of the sender
that were received. -/
structure Network (Address : Type) where
  sessionsSent : Address → Option Number
  epoch : ℕ
  flight : Channel → List Packet
  sessionsReceived : Address → Option Received
  receptions : List Reception

/-- What can happen: the sender sends a message to any address, a message of a channel is delivered,
the `i`-th message on a channel is lost, the sender restarts, or the receiver gets a message of
another node. -/
inductive Event (Address : Type)
  | serializeAndSend (address : Address) (serialized sent : Bool)
  | deliver (c : Channel)
  | lose (c : Channel) (i : ℕ)
  | restart
  | onMessage (sender destination : Address) (rebootFlag : Bool) (session : UInt16)
  deriving DecidableEq

namespace Network

/-- Both parties have just started. -/
def init : Network Address where
  sessionsSent := fun _ => none
  epoch := 0
  flight := fun _ => []
  sessionsReceived := fun _ => none
  receptions := []

/-- The network as a state machine. -/
def step [DecidableEq Address] (l : Link isMulticast) (n : Network Address) :
    Event Address → Network Address
  | .serializeAndSend address serialized sent =>
    let (number, sessionsSent) := Session.serializeAndSend n.sessionsSent address serialized sent
    let packets := number.toList.map (Packet.mk · n.epoch)
    { n with
      sessionsSent
      flight := fun c => if l.address c = address then n.flight c ++ packets else n.flight c }
  | .deliver c =>
    match n.flight c with
    | [] => n
    | packet :: packets =>
      let (reboot, sessionsReceived) := isReboot isMulticast n.sessionsReceived l.sender
        (l.address c) packet.number.2 packet.number.1
      { n with
        flight := Function.update n.flight c packets
        sessionsReceived
        receptions := n.receptions ++ [⟨c, packet.epoch, reboot⟩] }
  | .lose c i => { n with flight := Function.update n.flight c ((n.flight c).eraseIdx i) }
  | .restart => { n with sessionsSent := fun _ => none, epoch := n.epoch + 1 }
  | .onMessage sender destination rebootFlag session =>
    if sender = l.sender then n
    else
      { n with
        sessionsReceived :=
          (isReboot isMulticast n.sessionsReceived sender destination rebootFlag session).2 }

end Network

/-! ## What should be reported -/

/-- A message from after the restart, on a channel on which one from before it was received. -/
def Sign (earlier : List Reception) (r : Reception) : Prop :=
  r.epoch = 1 ∧ ∃ q ∈ earlier, q.channel = r.channel ∧ q.epoch = 0

/-- The first message of this kind. -/
def FirstSign (earlier : List Reception) (r : Reception) : Prop :=
  Sign earlier r ∧ ∀ before q after, earlier = before ++ q :: after → ¬ Sign before q

/-- A reboot is reported for exactly one message, the first sign of the restart. -/
def ReportedOnce (receptions : List Reception) : Prop :=
  (∀ earlier r later, receptions = earlier ++ r :: later →
    (r.reboot = true ↔ FirstSign earlier r)) ∧
  ((∃ earlier r later, receptions = earlier ++ r :: later ∧ Sign earlier r) →
    receptions.countP (·.reboot) = 1)

/-- No message from before the restart is received after the first sign of it. -/
def NoStragglers (receptions : List Reception) : Prop :=
  ∀ earlier r later, receptions = earlier ++ r :: later → FirstSign earlier r →
    ∀ q ∈ later, q.epoch ≠ 0

/-- Whether an old message of a channel was received since the last report. -/
def armed (receptions : List Reception) (c : Channel) : Bool :=
  receptions.foldl
    (fun b r => if r.reboot then false else b || (r.channel == c && r.epoch == 0)) false

/-- A reboot is reported for exactly those new messages whose channel is armed. -/
def Verdicts (receptions : List Reception) : Prop :=
  ∀ earlier r later, receptions = earlier ++ r :: later →
    r.reboot = (r.epoch == 1 && armed earlier r.channel)

section Receptions

variable {receptions earlier later : List Reception} {r : Reception} {c : Channel}

/-- Whether a reboot can be noticed after one more reception. -/
lemma armed_append : armed (receptions ++ [r]) c =
    if r.reboot then false else armed receptions c || (r.channel == c && r.epoch == 0) := by
  simp [armed, List.foldl_append]

/-- An armed channel has received an old message. -/
lemma exists_of_armed (h : armed receptions c = true) :
    ∃ q ∈ receptions, q.channel = c ∧ q.epoch = 0 := by
  induction receptions using List.reverseRec with
  | nil => cases h
  | append_singleton receptions r ih =>
    rw [armed_append] at h
    split_ifs at h
    rw [Bool.or_eq_true] at h
    obtain h | h := h
    · obtain ⟨q, hq, hqc⟩ := ih h
      exact ⟨q, List.mem_append_left _ hq, hqc⟩
    · exact ⟨r, List.mem_append_right _ (List.mem_singleton_self r), by simpa using h⟩

/-- Without a report, a channel that has received an old message is armed. -/
lemma armed_of_mem (hno : ∀ q ∈ receptions, q.reboot = false) {q : Reception} (hq : q ∈ receptions)
    (hold : q.epoch = 0) : armed receptions q.channel = true := by
  induction receptions using List.reverseRec with
  | nil => cases hq
  | append_singleton receptions r ih =>
    have hr : r.reboot = false := hno r (List.mem_append_right _ (List.mem_singleton_self r))
    rw [armed_append, hr, if_neg Bool.false_ne_true, Bool.or_eq_true]
    obtain hq | hq := List.mem_append.mp hq
    · exact Or.inl (ih (fun x hx => hno x (List.mem_append_left _ hx)) hq)
    · rw [List.mem_singleton.mp hq] at hold ⊢
      exact Or.inr (by simp [hold])

/-- After a report, no channel is armed until an old message is received. -/
lemma armed_after_report (hr : r.reboot = true) (hlater : ∀ q ∈ later, q.epoch ≠ 0) :
    armed (earlier ++ r :: later) c = false := by
  induction later using List.reverseRec with
  | nil => rw [armed_append, if_pos hr]
  | append_singleton later q ih =>
    have hq : q.epoch ≠ 0 := hlater q (List.mem_append_right _ (List.mem_singleton_self q))
    rw [← List.cons_append, ← List.append_assoc, armed_append,
      ih fun x hx => hlater x (List.mem_append_left _ hx)]
    simp [hq]

/-- A verdict more, made from the receptions before. -/
lemma Verdicts.append (h : Verdicts receptions)
    (hr : r.reboot = (r.epoch == 1 && armed receptions r.channel)) :
    Verdicts (receptions ++ [r]) := by
  intro earlier q later heq
  obtain rfl | ⟨later, x, rfl⟩ := List.eq_nil_or_concat later
  · obtain ⟨rfl, hrq⟩ := List.append_inj' heq rfl
    obtain rfl := List.singleton_inj.mp hrq
    exact hr
  · rw [List.concat_eq_append, ← List.cons_append, ← List.append_assoc] at heq
    exact h earlier q later (List.append_inj' heq rfl).1

/-- A sign is the first one, or the first one is before it.

**Proof sketch.** Induction on the number of messages before the sign. -/
lemma Sign.exists_firstSign (h : Sign earlier r) : FirstSign earlier r ∨
    ∃ before q after, earlier = before ++ q :: after ∧ FirstSign before q := by
  induction hlen : earlier.length using Nat.strong_induction_on generalizing earlier r with
  | _ k ih =>
    by_cases hfirst : ∃ before q after, earlier = before ++ q :: after ∧ Sign before q
    · obtain ⟨before, q, after, rfl, hq⟩ := hfirst
      right
      have hlt : before.length < k := by
        rw [← hlen, List.length_append, List.length_cons]
        omega
      obtain hq | ⟨before', q', after', rfl, hq'⟩ := ih before.length hlt hq rfl
      · exact ⟨before, q, after, rfl, hq⟩
      · exact ⟨before', q', after' ++ q :: after, by simp, hq'⟩
    · left
      exact ⟨h, fun before q after heq hq => hfirst ⟨before, q, after, heq, hq⟩⟩

/-- Nothing old comes after the first sign if all old messages come before the new ones. -/
lemma noStragglers_of_pairwise (h : receptions.Pairwise fun q r => r.epoch = 0 → q.epoch = 0) :
    NoStragglers receptions := by
  rintro earlier r later rfl hfirst q hq hold
  have hr : r.epoch = 0 :=
    (List.pairwise_cons.mp (List.pairwise_append.mp h).2.1).1 q hq hold
  rw [hfirst.1.1] at hr
  cases hr

namespace Verdicts

/-- A reboot is reported at a sign of one. -/
lemma sign_of_reboot (h : Verdicts (earlier ++ r :: later)) (hr : r.reboot = true) :
    Sign earlier r := by
  have hverdict := h earlier r later rfl
  rw [hr, eq_comm, Bool.and_eq_true] at hverdict
  exact ⟨by simpa using hverdict.1, exists_of_armed hverdict.2⟩

/-- No reboot is reported before the first sign. -/
lemma not_reboot_of_firstSign (h : Verdicts (earlier ++ r :: later)) (hfirst : FirstSign earlier r) :
    ∀ q ∈ earlier, q.reboot = false := by
  intro q hq
  obtain ⟨before, after, rfl⟩ := List.append_of_mem hq
  rw [← Bool.not_eq_true]
  intro hreboot
  rw [List.append_assoc, List.cons_append] at h
  exact hfirst.2 before q after rfl (h.sign_of_reboot hreboot)

/-- The first sign is reported. -/
lemma reboot_of_firstSign (h : Verdicts (earlier ++ r :: later)) (hfirst : FirstSign earlier r) :
    r.reboot = true := by
  obtain ⟨⟨hnew, q, hq, hchannel, hold⟩, -⟩ := id hfirst
  have harmed := armed_of_mem (h.not_reboot_of_firstSign hfirst) hq hold
  rw [h earlier r later rfl, ← hchannel, harmed, hnew]
  rfl

/-- If nothing old comes after the first sign, it is the only message that is reported.

**Proof sketch.** A reported message is a sign. If it were not the first one, the first one would
have been reported before it and no channel would have been armed since then. -/
lemma firstSign_of_reboot (h : Verdicts (earlier ++ r :: later))
    (hlate : NoStragglers (earlier ++ r :: later)) (hr : r.reboot = true) : FirstSign earlier r := by
  obtain hfirst | ⟨before, q, after, rfl, hq⟩ := (h.sign_of_reboot hr).exists_firstSign
  · exact hfirst
  · rw [List.append_assoc, List.cons_append] at h hlate
    have hnew : ∀ x ∈ after, x.epoch ≠ 0 := fun x hx =>
      hlate before q _ rfl hq x (List.mem_append_left _ hx)
    have hverdict := h (before ++ q :: after) r later (by simp)
    rw [armed_after_report (h.reboot_of_firstSign hq) hnew, Bool.and_false, hr] at hverdict
    cases hverdict

/-- Without stragglers a reboot is reported once. -/
lemma reportedOnce (h : Verdicts receptions) (hlate : NoStragglers receptions) :
    ReportedOnce receptions := by
  have hiff : ∀ earlier r later, receptions = earlier ++ r :: later →
      (r.reboot = true ↔ FirstSign earlier r) := by
    rintro earlier r later rfl
    exact ⟨h.firstSign_of_reboot hlate, h.reboot_of_firstSign⟩
  refine ⟨hiff, ?_⟩
  rintro ⟨earlier, r, later, rfl, hsign⟩
  obtain ⟨earlier, r, later, heq, hfirst⟩ : ∃ earlier' r' later',
      earlier ++ r :: later = earlier' ++ r' :: later' ∧ FirstSign earlier' r' := by
    obtain hfirst | ⟨before, q, after, rfl, hq⟩ := hsign.exists_firstSign
    · exact ⟨earlier, r, later, rfl, hfirst⟩
    · exact ⟨before, q, after ++ r :: later, by simp, hq⟩
  rw [heq] at h hiff ⊢
  have hearlier : earlier.countP (·.reboot) = 0 :=
    List.countP_eq_zero.mpr fun q hq => by simp [h.not_reboot_of_firstSign hfirst q hq]
  have hlater : later.countP (·.reboot) = 0 := by
    refine List.countP_eq_zero.mpr fun q hq hreboot => ?_
    obtain ⟨before, after, rfl⟩ := List.append_of_mem hq
    have hq := (hiff (earlier ++ r :: before) q after (by simp)).mp hreboot
    exact hq.2 earlier r before rfl hfirst.1
  rw [List.countP_append, List.countP_cons, hearlier, hlater, h.reboot_of_firstSign hfirst]
  rfl

end Verdicts

end Receptions

/-! ## Lists of numbers -/

/-- A sequence of ordered numbers is continued by incrementing the last one. -/
lemma pairwise_increment {numbers : List Number} {number : Number}
    (h : (numbers ++ [number]).Pairwise Before) :
    (numbers ++ [number] ++ [increment number]).Pairwise Before := by
  rw [List.pairwise_append] at h ⊢
  obtain ⟨hnumbers, -, hlast⟩ := h
  refine ⟨?_, List.pairwise_singleton _ _, ?_⟩
  · rw [List.pairwise_append]
    exact ⟨hnumbers, List.pairwise_singleton _ _, hlast⟩
  · intro p hp q hq
    rw [List.mem_singleton] at hq
    subst hq
    rw [List.mem_append, List.mem_singleton] at hp
    obtain hp | rfl := hp
    · exact (hlast p hp number (List.mem_singleton_self number)).trans (before_increment number)
    · exact before_increment p

/-! ## The invariant of a channel -/

/-- A channel before the restart: the number that the receiver has stored, the numbers on their way
and the next one of the sender are ordered. `armed` tells whether something was received. -/
structure Steady (heard : Number) (armed : Bool) (flight : List Number) (next : Number) : Prop where
  before : (heard :: (flight ++ [next])).Pairwise Before
  ne_zero : ∀ p ∈ flight ++ [next], p.1 ≠ 0
  heard_ne_zero : armed = true → heard.1 ≠ 0
  heard_eq : armed = false → heard = (0, true)

/-- A channel after the restart, with the numbers from before (`old`) and after it (`new`) that are
on their way. The channel is `armed` if the number that the receiver has stored is an old one; then
the first new one is still to come, and will be taken for a reboot. -/
structure Restarted (heard : Number) (armed : Bool) (old new : List Number) (next : Number) :
    Prop where
  old_before : (heard :: old).Pairwise Before
  new_before : (new ++ [next]).Pairwise Before
  old_ne_zero : ∀ p ∈ old, p.1 ≠ 0
  new_ne_zero : ∀ p ∈ new ++ [next], p.1 ≠ 0
  heard_ne_zero : armed = true → heard.1 ≠ 0
  heard_before : armed = false → ∀ p ∈ new ++ [next], Before heard p
  first : armed = true ∨ old ≠ [] → (new ++ [next]).head? = some (1, true)

namespace Steady

variable {heard next p : Number} {armed : Bool} {flight flight' : List Number}

/-- Nothing was sent and nothing was received. -/
lemma init : Steady (0, true) false [] (1, true) where
  before := by simp [none_before]
  ne_zero := by simp
  heard_ne_zero := fun h => by cases h
  heard_eq := fun _ => rfl

/-- A packet of the same life is received. -/
lemma receive (h : Steady heard armed (p :: flight) next) : Steady p true flight next where
  before := (List.pairwise_cons.mp h.before).2
  ne_zero := fun q hq => h.ne_zero q (List.mem_cons_of_mem p hq)
  heard_ne_zero := fun _ => h.ne_zero p List.mem_cons_self
  heard_eq := fun hfalse => by cases hfalse

/-- Packets of the same life are lost. -/
lemma lose (h : Steady heard armed flight next) (hsub : flight'.Sublist flight) :
    Steady heard armed flight' next :=
  { h with
    before := h.before.sublist ((hsub.append_right [next]).cons_cons heard)
    ne_zero := fun q hq => h.ne_zero q ((hsub.append_right [next]).subset hq) }

/-- A packet of the same life is sent. -/
lemma send (h : Steady heard armed flight next) :
    Steady heard armed (flight ++ [next]) (increment next) :=
  { h with
    before := @pairwise_increment (heard :: flight) next h.before
    ne_zero := by
      intro q hq
      obtain hq | hq := List.mem_append.mp hq
      · exact h.ne_zero q hq
      · rw [List.mem_singleton.mp hq]
        exact increment_ne_zero next }

/-- The sender restarts: what is on its way becomes old. -/
lemma restart (h : Steady heard armed flight next) : Restarted heard armed flight [] (1, true) where
  old_before := h.before.sublist ((List.sublist_append_left flight [next]).cons_cons heard)
  new_before := List.pairwise_singleton _ _
  old_ne_zero := fun q hq => h.ne_zero q (List.mem_append_left [next] hq)
  new_ne_zero := by simp
  heard_ne_zero := h.heard_ne_zero
  heard_before := by
    intro harmed q hq
    rw [h.heard_eq harmed, List.mem_singleton.mp hq]
    exact none_before (by decide)
  first := fun _ => rfl

end Steady

namespace Restarted

variable {heard next p : Number} {armed : Bool} {old new : List Number}

/-- A packet of the life before is received. -/
lemma receive_old (h : Restarted heard armed (p :: old) new next) :
    Restarted p true old new next :=
  { h with
    old_before := (List.pairwise_cons.mp h.old_before).2
    old_ne_zero := fun q hq => h.old_ne_zero q (List.mem_cons_of_mem p hq)
    heard_ne_zero := fun _ => h.old_ne_zero p List.mem_cons_self
    heard_before := fun hfalse => by cases hfalse
    first := fun _ => h.first (Or.inr (List.cons_ne_nil p old)) }

/-- A packet of the new life is received, when those before are gone. -/
lemma receive_new (h : Restarted heard false [] (p :: new) next) :
    Restarted p false [] new next where
  old_before := List.pairwise_singleton _ _
  new_before := (List.pairwise_cons.mp h.new_before).2
  old_ne_zero := h.old_ne_zero
  new_ne_zero := fun q hq => h.new_ne_zero q (List.mem_cons_of_mem p hq)
  heard_ne_zero := fun hfalse => by cases hfalse
  heard_before := fun _ => (List.pairwise_cons.mp h.new_before).1
  first := by simp

/-- The first new number on an armed channel is taken for a reboot. -/
lemma not_before (h : Restarted heard true [] (p :: new) next) : ¬ Before heard p := by
  have hfirst : p = (1, true) := Option.some.inj (h.first (Or.inl rfl))
  rw [hfirst]
  exact not_before_first (h.heard_ne_zero rfl)

/-- The receiver forgets what it has stored. -/
lemma reset (h : Restarted heard armed old new next) : Restarted (0, true) false old new next :=
  { h with
    old_before := by
      refine List.pairwise_cons.mpr ⟨fun q hq => none_before (h.old_ne_zero q hq), ?_⟩
      exact (List.pairwise_cons.mp h.old_before).2
    heard_ne_zero := fun hfalse => by cases hfalse
    heard_before := fun _ q hq => none_before (h.new_ne_zero q hq)
    first := fun hold => h.first (Or.inr (hold.resolve_left Bool.false_ne_true)) }

/-- A packet of the new life is sent. -/
lemma send (h : Restarted heard armed old new next) :
    Restarted heard armed old (new ++ [next]) (increment next) :=
  { h with
    new_before := pairwise_increment h.new_before
    new_ne_zero := by
      intro q hq
      obtain hq | hq := List.mem_append.mp hq
      · exact h.new_ne_zero q hq
      · rw [List.mem_singleton.mp hq]
        exact increment_ne_zero next
    heard_before := by
      intro harmed q hq
      obtain hq | hq := List.mem_append.mp hq
      · exact h.heard_before harmed q hq
      · rw [List.mem_singleton.mp hq]
        exact (h.heard_before harmed next (by simp)).trans (before_increment next)
    first := fun hold => by
      rw [List.head?_append_of_ne_nil _ (by simp)]
      exact h.first hold }

end Restarted

/-! ## The invariant of the network -/

namespace Network

/-- The network before the restart. -/
structure SteadyState (l : Link isMulticast) (n : Network Address) : Prop where
  epoch : n.epoch = 0
  receptions_epoch : ∀ r ∈ n.receptions, r.epoch = 0
  verdicts : Verdicts n.receptions
  channel : ∀ c, ∃ old : List Number, n.flight c = old.map (Packet.mk · 0) ∧
    Steady (heard (n.sessionsReceived l.sender) c) (armed n.receptions c) old
      (next n.sessionsSent (l.address c))

/-- The network after the restart. -/
structure RestartedState (l : Link isMulticast) (n : Network Address) : Prop where
  epoch : n.epoch = 1
  verdicts : Verdicts n.receptions
  channel : ∀ c, ∃ old new : List Number,
    n.flight c = old.map (Packet.mk · 0) ++ new.map (Packet.mk · 1) ∧
    Restarted (heard (n.sessionsReceived l.sender) c) (armed n.receptions c) old new
      (next n.sessionsSent (l.address c))

section Steps

variable [DecidableEq Address] {l : Link isMulticast} {n : Network Address}

/-- A message that leaves the sender is appended to the channel of its destination. -/
lemma flight_serializeAndSend (address : Address) (serialized sent : Bool) (c : Channel) :
    (n.step l (.serializeAndSend address serialized sent)).flight c =
      if (serialized && sent) = true ∧ l.address c = address then
        n.flight c ++ [⟨next n.sessionsSent (l.address c), n.epoch⟩]
      else n.flight c := by
  simp only [step, serializeAndSend_fst]
  by_cases hsent : (serialized && sent) = true
  · by_cases haddress : l.address c = address
    · simp [hsent, haddress]
    · simp [haddress]
  · simp [hsent]

/-- The next message of a channel is taken for a reboot or not, and leaves the channel. -/
lemma step_deliver {c : Channel} {packet : Packet} {packets : List Packet}
    (hflight : n.flight c = packet :: packets) (hne : packet.number.1 ≠ 0) :
    ∃ reboot sessionsReceived,
      n.step l (.deliver c) =
        { n with
          flight := Function.update n.flight c packets
          sessionsReceived
          receptions := n.receptions ++ [⟨c, packet.epoch, reboot⟩] } ∧
      (reboot = false ↔ Before (heard (n.sessionsReceived l.sender) c) packet.number) ∧
      ∀ d, heard (sessionsReceived l.sender) d = if reboot then (0, true)
        else if d = c then packet.number else heard (n.sessionsReceived l.sender) d := by
  refine ⟨_, _, ?_, isReboot_eq_false_iff n.sessionsReceived l.sender (l.isMulticast_address c) hne,
    heard_isReboot n.sessionsReceived l.sender (l.isMulticast_address c) packet.number⟩
  simp [step, hflight]

/-- A message of another sender leaves what is stored for this one. -/
lemma step_onMessage (sender destination : Address) (rebootFlag : Bool) (session : UInt16) :
    ∃ sessionsReceived,
      n.step l (.onMessage sender destination rebootFlag session) = { n with sessionsReceived } ∧
      sessionsReceived l.sender = n.sessionsReceived l.sender := by
  simp only [step]
  split_ifs with h
  · exact ⟨_, rfl, rfl⟩
  · exact ⟨_, rfl, isReboot_of_ne _ _ (Ne.symm h) _ _⟩

end Steps

namespace SteadyState

section

variable {l : Link isMulticast} {n : Network Address}

/-- At the start nothing is sent. -/
lemma init (l : Link isMulticast) : SteadyState l Network.init where
  epoch := rfl
  receptions_epoch := fun r hr => by cases hr
  verdicts := fun earlier r later h => by simp [Network.init] at h
  channel := fun _ => ⟨[], rfl, Steady.init⟩

/-- Without a restart, no reboot is reported. -/
lemma reboot_eq_false (h : SteadyState l n) : ∀ r ∈ n.receptions, r.reboot = false := by
  intro r hr
  obtain ⟨earlier, later, heq⟩ := List.append_of_mem hr
  rw [h.verdicts earlier r later heq, h.receptions_epoch r hr]
  rfl

end

variable [DecidableEq Address] {l : Link isMulticast} {n : Network Address}

/-- Sending keeps the state steady. -/
lemma serializeAndSend (h : SteadyState l n) (address : Address) (serialized sent : Bool) :
    SteadyState l (n.step l (.serializeAndSend address serialized sent)) where
  epoch := h.epoch
  receptions_epoch := h.receptions_epoch
  verdicts := h.verdicts
  channel := by
    intro c
    obtain ⟨old, hflight, hold⟩ := h.channel c
    rw [flight_serializeAndSend, h.epoch]
    simp only [step, next_serializeAndSend]
    split_ifs
    · exact ⟨old ++ [_], by rw [hflight, List.map_append]; rfl, hold.send⟩
    · exact ⟨old, hflight, hold⟩

/-- A delivery keeps the state steady. -/
lemma deliver (h : SteadyState l n) (c : Channel) : SteadyState l (n.step l (.deliver c)) := by
  obtain ⟨old, hflight, hold⟩ := h.channel c
  cases old with
  | nil =>
    have hstep : n.step l (.deliver c) = n := by simp [step, hflight]
    rw [hstep]
    exact h
  | cons p old =>
    obtain ⟨reboot, sessionsReceived, hstep, hreboot, hheard⟩ :=
      step_deliver hflight (hold.ne_zero p List.mem_cons_self)
    obtain rfl := hreboot.mpr ((List.pairwise_cons.mp hold.before).1 p List.mem_cons_self)
    rw [hstep]
    refine ⟨h.epoch, ?_, h.verdicts.append rfl, fun d => ?_⟩
    · intro r hr
      obtain hr | hr := List.mem_append.mp hr
      · exact h.receptions_epoch r hr
      · rw [List.mem_singleton.mp hr]
    · simp only [hheard, armed_append]
      by_cases hd : d = c
      · subst hd
        refine ⟨old, Function.update_self .., ?_⟩
        simpa using hold.receive
      · obtain ⟨old', hflight', hold'⟩ := h.channel d
        refine ⟨old', by rw [Function.update_of_ne hd, hflight'], ?_⟩
        have hcd : (c == d) = false := beq_false_of_ne (Ne.symm hd)
        simpa [hd, hcd] using hold'

/-- A loss keeps the state steady. -/
lemma lose (h : SteadyState l n) (c : Channel) (i : ℕ) :
    SteadyState l (n.step l (.lose c i)) where
  epoch := h.epoch
  receptions_epoch := h.receptions_epoch
  verdicts := h.verdicts
  channel := by
    intro d
    obtain ⟨old, hflight, hold⟩ := h.channel d
    simp only [step]
    by_cases hd : d = c
    · subst hd
      refine ⟨old.eraseIdx i, ?_, hold.lose (List.eraseIdx_sublist old i)⟩
      rw [Function.update_self, hflight, List.eraseIdx_map]
    · exact ⟨old, by rw [Function.update_of_ne hd, hflight], hold⟩

/-- A message of another sender keeps the state steady. -/
lemma onMessage (h : SteadyState l n) (sender destination : Address) (rebootFlag : Bool)
    (session : UInt16) :
    SteadyState l (n.step l (.onMessage sender destination rebootFlag session)) := by
  obtain ⟨sessionsReceived, hstep, hsame⟩ :=
    @step_onMessage _ _ _ l n sender destination rebootFlag session
  rw [hstep]
  exact { h with channel := by simpa only [hsame] using h.channel }

/-- Before the restart, every step but the restart keeps the invariant. -/
lemma step (h : SteadyState l n) {e : Event Address} (he : e ≠ .restart) :
    SteadyState l (n.step l e) := by
  cases e with
  | serializeAndSend address serialized sent => exact h.serializeAndSend address serialized sent
  | deliver c => exact h.deliver c
  | lose c i => exact h.lose c i
  | restart => exact absurd rfl he
  | onMessage sender destination rebootFlag session =>
    exact h.onMessage sender destination rebootFlag session

/-- A restart of a steady state. -/
lemma restart (h : SteadyState l n) : RestartedState l (n.step l .restart) where
  epoch := by simp [Network.step, h.epoch]
  verdicts := h.verdicts
  channel := by
    intro c
    obtain ⟨old, hflight, hold⟩ := h.channel c
    exact ⟨old, [], by simpa [Network.step] using hflight, hold.restart⟩

end SteadyState

namespace RestartedState

variable [DecidableEq Address] {l : Link isMulticast} {n : Network Address}

/-- Sending in the new life. -/
lemma serializeAndSend (h : RestartedState l n) (address : Address) (serialized sent : Bool) :
    RestartedState l (n.step l (.serializeAndSend address serialized sent)) where
  epoch := h.epoch
  verdicts := h.verdicts
  channel := by
    intro c
    obtain ⟨old, new, hflight, hchannel⟩ := h.channel c
    rw [flight_serializeAndSend, h.epoch]
    simp only [step, next_serializeAndSend]
    split_ifs
    · exact ⟨old, new ++ [_], by rw [hflight, List.map_append, List.append_assoc]; rfl, hchannel.send⟩
    · exact ⟨old, new, hflight, hchannel⟩

/-- An old message is received: it is not taken for a reboot, and arms its channel. -/
lemma deliver_old (h : RestartedState l n) {c : Channel} {p : Number} {old new : List Number}
    (hflight : n.flight c = (p :: old).map (Packet.mk · 0) ++ new.map (Packet.mk · 1))
    (hchannel : Restarted (heard (n.sessionsReceived l.sender) c) (armed n.receptions c) (p :: old)
      new (next n.sessionsSent (l.address c))) :
    RestartedState l (n.step l (.deliver c)) := by
  obtain ⟨reboot, sessionsReceived, hstep, hreboot, hheard⟩ :=
    step_deliver hflight (hchannel.old_ne_zero p List.mem_cons_self)
  obtain rfl := hreboot.mpr ((List.pairwise_cons.mp hchannel.old_before).1 p List.mem_cons_self)
  rw [hstep]
  refine ⟨h.epoch, h.verdicts.append rfl, fun d => ?_⟩
  simp only [hheard, armed_append]
  by_cases hd : d = c
  · subst hd
    refine ⟨old, new, Function.update_self .., ?_⟩
    simpa using hchannel.receive_old
  · obtain ⟨old', new', hflight', hchannel'⟩ := h.channel d
    have hcd : (c == d) = false := beq_false_of_ne (Ne.symm hd)
    refine ⟨old', new', by rw [Function.update_of_ne hd, hflight'], ?_⟩
    simpa [hd, hcd] using hchannel'

/-- A new message is received: it is taken for a reboot exactly if its channel is armed. -/
lemma deliver_new (h : RestartedState l n) {c : Channel} {p : Number} {new : List Number}
    (hflight : n.flight c = (p :: new).map (Packet.mk · 1))
    (hchannel : Restarted (heard (n.sessionsReceived l.sender) c) (armed n.receptions c) [] (p :: new)
      (next n.sessionsSent (l.address c))) :
    RestartedState l (n.step l (.deliver c)) := by
  obtain ⟨reboot, sessionsReceived, hstep, hreboot, hheard⟩ :=
    step_deliver hflight (hchannel.new_ne_zero p List.mem_cons_self)
  have harmed : reboot = armed n.receptions c := by
    cases ha : armed n.receptions c with
    | false => exact hreboot.mpr (hchannel.heard_before ha p List.mem_cons_self)
    | true =>
      rw [ha] at hchannel
      rw [← Bool.not_eq_false, hreboot]
      exact hchannel.not_before
  rw [hstep]
  refine ⟨h.epoch, h.verdicts.append harmed, fun d => ?_⟩
  simp only [hheard, armed_append]
  by_cases hd : d = c
  · subst hd
    refine ⟨[], new, Function.update_self .., ?_⟩
    rw [← harmed] at hchannel ⊢
    cases reboot with
    | false => simpa using hchannel.receive_new
    | true => simpa using hchannel.reset.receive_new.reset
  · obtain ⟨old', new', hflight', hchannel'⟩ := h.channel d
    refine ⟨old', new', by rw [Function.update_of_ne hd, hflight'], ?_⟩
    cases reboot with
    | false => simpa [hd] using hchannel'
    | true => simpa using hchannel'.reset

/-- A delivery after a restart. -/
lemma deliver (h : RestartedState l n) (c : Channel) : RestartedState l (n.step l (.deliver c)) := by
  obtain ⟨old, new, hflight, hchannel⟩ := h.channel c
  cases old with
  | cons p old => exact h.deliver_old hflight hchannel
  | nil =>
    cases new with
    | cons p new => exact h.deliver_new hflight hchannel
    | nil =>
      have hstep : n.step l (.deliver c) = n := by simp [step, hflight]
      rw [hstep]
      exact h

/-- A message of another sender after a restart. -/
lemma onMessage (h : RestartedState l n) (sender destination : Address) (rebootFlag : Bool)
    (session : UInt16) :
    RestartedState l (n.step l (.onMessage sender destination rebootFlag session)) := by
  obtain ⟨sessionsReceived, hstep, hsame⟩ :=
    @step_onMessage _ _ _ l n sender destination rebootFlag session
  rw [hstep]
  exact { h with channel := by simpa only [hsame] using h.channel }

/-- After the restart, every step but another one and a loss keeps the invariant. -/
lemma step (h : RestartedState l n) {e : Event Address} (he : e ≠ .restart ∧ ∀ c i, e ≠ .lose c i) :
    RestartedState l (n.step l e) := by
  cases e with
  | serializeAndSend address serialized sent => exact h.serializeAndSend address serialized sent
  | deliver c => exact h.deliver c
  | lose c i => exact absurd rfl (he.2 c i)
  | restart => exact absurd rfl he.1
  | onMessage sender destination rebootFlag session =>
    exact h.onMessage sender destination rebootFlag session

end RestartedState

end Network

/-! ## Runs -/

section Runs

variable [DecidableEq Address] (l : Link isMulticast) {events : List (Event Address)}

/-- A run without a restart. -/
lemma steadyState_run (hno : Event.restart ∉ events) :
    Network.SteadyState l (Runs.run (Network.step l) Network.init events) := by
  have hok : ∀ e ∈ events, e ≠ Event.restart := by
    rintro e he rfl
    exact hno he
  exact Runs.inv_run (fun h he => h.step he) (Network.SteadyState.init l) hok

/-- In a run with one restart and without losses, a reboot is reported for exactly those new messages
whose channel is armed. -/
lemma verdicts_run (hone : events.count Event.restart = 1)
    (hlossless : ∀ c i, Event.lose c i ∉ events) :
    Verdicts (Runs.run (Network.step l) Network.init events).receptions := by
  have hmem : Event.restart ∈ events := List.count_pos_iff.mp (by omega)
  obtain ⟨before, after, rfl⟩ := List.append_of_mem hmem
  rw [List.count_append, List.count_cons_self] at hone
  have hbefore : Event.restart ∉ before := List.count_eq_zero.mp (by omega)
  have hnot : Event.restart ∉ after := List.count_eq_zero.mp (by omega)
  have hok : ∀ e ∈ after, e ≠ .restart ∧ ∀ c i, e ≠ .lose c i := by
    refine fun e he => ⟨?_, ?_⟩
    · rintro rfl
      exact hnot he
    · rintro c i rfl
      exact hlossless c i (List.mem_append_right _ (List.mem_cons_of_mem _ he))
  have hafter := Runs.inv_run (fun h he => h.step he) (steadyState_run l hbefore).restart hok
  rw [Runs.run_append, Runs.run]
  exact hafter.verdicts

/-- A sender that never restarts is never taken for a rebooted one, whatever is lost. A sender that
restarts once is, if nothing is lost, for exactly one of its messages: the first one from after the
restart on a channel on which the receiver had got one from before it. For this, messages from before
the restart must not come after that one. -/
theorem reboot_detection (l : Link isMulticast) (events : List (Event Address)) :
    (Event.restart ∉ events →
      ∀ r ∈ (Runs.run (Network.step l) Network.init events).receptions, r.reboot = false) ∧
    (events.count Event.restart = 1 → (∀ c i, Event.lose c i ∉ events) →
      NoStragglers (Runs.run (Network.step l) Network.init events).receptions →
      ReportedOnce (Runs.run (Network.step l) Network.init events).receptions) :=
  ⟨fun hno => (steadyState_run l hno).reboot_eq_false,
    fun hone hlossless hlate => (verdicts_run l hone hlossless).reportedOnce hlate⟩

end Runs

/-- `is_multicast` of an IPv4 address. -/
def isMulticastV4 (address : UInt32) : Bool := address &&& 0xF0000000 == 0xE0000000

/-- A sender 10.0.0.1 and a receiver 10.0.0.2, with the default multicast address. -/
def exampleLink : Link isMulticastV4 where
  sender := 0x0A000001
  unicast := 0x0A000002
  multicast := 0xE0F4E0F5
  isMulticast_unicast := by decide
  isMulticast_multicast := by decide

/-- A message to one of the addresses of the receiver is sent and arrives. -/
def exchange (c : Channel) : List (Event UInt32) :=
  [.serializeAndSend (exampleLink.address c) true true, .deliver c]

/-- In a run with a loss nothing is reported, in one with a restart between messages on both channels
the restart is. -/
theorem reboot_detection_exampleLink :
    (∀ r ∈ (Runs.run (Network.step exampleLink) Network.init
      (.serializeAndSend exampleLink.unicast true true :: .lose .unicast 0 ::
        exchange .unicast)).receptions, r.reboot = false) ∧
    ReportedOnce (Runs.run (Network.step exampleLink) Network.init
      (exchange .unicast ++ exchange .multicast ++ .restart :: exchange .unicast ++
        exchange .multicast)).receptions := by
  refine ⟨(reboot_detection exampleLink _).1 (by decide),
    (reboot_detection exampleLink _).2 (by decide) ?_ (noStragglers_of_pairwise (by decide))⟩
  simp [exchange]

/-- A multicast message from before the restart arrives only after the restart was noticed on the
unicast channel. It is stored, and the next multicast message is taken for another reboot. -/
theorem not_reportedOnce_straggler :
    ¬ ∀ events : List (Event UInt32), events.count Event.restart = 1 →
      (∀ c i, Event.lose c i ∉ events) →
      ReportedOnce (Runs.run (Network.step exampleLink) Network.init events).receptions := by
  intro h
  have hruns := (h (exchange .unicast ++ exchange .multicast ++
    .serializeAndSend exampleLink.multicast true true :: .restart :: exchange .unicast ++
    .deliver .multicast :: exchange .multicast) (by decide) (by simp [exchange])).2
  have hreceptions : (Runs.run (Network.step exampleLink) Network.init
      (exchange .unicast ++ exchange .multicast ++
        .serializeAndSend exampleLink.multicast true true :: .restart :: exchange .unicast ++
        .deliver .multicast :: exchange .multicast)).receptions =
      [⟨.unicast, 0, false⟩, ⟨.multicast, 0, false⟩, ⟨.unicast, 1, true⟩, ⟨.multicast, 0, false⟩,
        ⟨.multicast, 1, true⟩] := by decide
  rw [hreceptions] at hruns
  have hcount := hruns ⟨[⟨.unicast, 0, false⟩, ⟨.multicast, 0, false⟩], ⟨.unicast, 1, true⟩, _, rfl,
    rfl, ⟨.unicast, 0, false⟩, by decide, rfl, rfl⟩
  revert hcount
  decide

end Session

end Vsomeip
