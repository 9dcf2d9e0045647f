import Mathlib.Logic.Function.Basic
import Mathlib.Tactic.SplitIfs

set_option relaxedAutoImplicit false
set_option autoImplicit false

/-!
# Session identifiers and reboot detection

The functions of `service_discovery_impl` by which a node numbers its messages
(`get_session`, `increment_session`, `serialize_and_send`) and recognises a restarted peer
(`is_reboot`). Both keep a map from addresses: `sessions_sent_` has the next session identifier and
the reboot flag of every destination, `sessions_received_` the last ones of every sender, apart for
multicast and unicast.

Addresses are an arbitrary type, of which only `is_multicast` is used.

## Main definitions

* `Vsomeip.Session.getSession`, `incrementSession`, `serializeAndSend` — the sender.
* `Vsomeip.Session.isReboot` — the receiver.
* `Vsomeip.Session.Channel`, `heard` — what the receiver has stored for one of the two channels.
* `Vsomeip.Session.Before` — an order on the numbers, in which successive ones are ordered and which
  a reboot breaks.

## Main results

* `Vsomeip.Session.isReboot_eq_false_iff` — no reboot is reported exactly if the number comes after
  the stored one.
* `Vsomeip.Session.heard_isReboot` — what is stored afterwards.
* `Vsomeip.Session.before_increment` — a number comes before the next one.
-/

namespace Vsomeip

namespace Session

variable {Address : Type} [DecidableEq Address]

/-! ## The sender -/

/-- A session identifier and a reboot flag, `std::pair<session_t, bool>`. -/
abbrev Number := UInt16 × Bool

/-- `get_session`. The first message to an address has session 1 and the reboot flag. -/
def getSession (sessionsSent : Address → Option Number) (address : Address) :
    Number × (Address → Option Number) :=
  match sessionsSent address with
  | none => ((1, true), Function.update sessionsSent address (some (1, true)))
  | some session => (session, sessionsSent)

/-- The number after a given one: the session identifier skips 0, and the reboot flag is cleared when
it wraps. -/
def increment (number : Number) : Number :=
  let session := number.1 + 1
  if session = 0 then (1, false) else (session, number.2)

/-- `increment_session`. -/
def incrementSession (sessionsSent : Address → Option Number) (address : Address) :
    Address → Option Number :=
  match sessionsSent address with
  | none => sessionsSent
  | some session => Function.update sessionsSent address (some (increment session))

/-- `serialize_and_send`, as far as the session is concerned: the number with which the message
leaves the node, if it does. Whether it could be serialized and whether `send_to` took it are
arguments. -/
def serializeAndSend (sessionsSent : Address → Option Number) (address : Address)
    (serialized sent : Bool) : Option Number × (Address → Option Number) :=
  let (session, sessionsSent) := getSession sessionsSent address
  if ¬ serialized then (none, sessionsSent)
  else if sent then (some session, incrementSession sessionsSent address)
  else (none, sessionsSent)

/-! ## The receiver -/

/-- What `sessions_received_` has for a sender, in the order of its tuple. -/
structure Received where
  multicastSession : UInt16
  unicastSession : UInt16
  multicastRebootFlag : Bool
  unicastRebootFlag : Bool

/-- The detection in `is_reboot`: either the flag has changed from false to true, or the session
identifier overrun while the flag is true. -/
def detects (received : Received) (isMulticast rebootFlag : Bool) (session : UInt16) : Bool :=
  if rebootFlag && ((isMulticast && !received.multicastRebootFlag) ||
      (!isMulticast && !received.unicastRebootFlag)) then true
  else
    let oldSession := if isMulticast then received.multicastSession else received.unicastSession
    let oldRebootFlag :=
      if isMulticast then received.multicastRebootFlag else received.unicastRebootFlag
    oldRebootFlag && rebootFlag && decide (oldSession ≥ session)

/-- `is_reboot`. The part that is not received from the network is initialized with session 0 and the
flag, such that it never triggers the detection. -/
def isReboot (isMulticast : Address → Bool) (sessionsReceived : Address → Option Received)
    (sender destination : Address) (rebootFlag : Bool) (session : UInt16) :
    Bool × (Address → Option Received) :=
  let multicastSession := if isMulticast destination then session else 0
  let multicastRebootFlag := if isMulticast destination then rebootFlag else true
  let unicastSession := if isMulticast destination then 0 else session
  let unicastRebootFlag := if isMulticast destination then true else rebootFlag
  match sessionsReceived sender with
  | none =>
    (false, Function.update sessionsReceived sender
      (some ⟨multicastSession, unicastSession, multicastRebootFlag, unicastRebootFlag⟩))
  | some received =>
    let result := detects received (isMulticast destination) rebootFlag session
    if result = false then
      let received' : Received :=
        if isMulticast destination then { received with multicastSession, multicastRebootFlag }
        else { received with unicastSession, unicastRebootFlag }
      (result, Function.update sessionsReceived sender (some received'))
    else (result, Function.update sessionsReceived sender none)

/-- The two channels on which a node receives messages of service discovery. -/
inductive Channel
  | multicast
  | unicast
  deriving DecidableEq

/-- The number that is stored for a channel, or the one that stands for none. -/
def heard : Option Received → Channel → Number
  | none, _ => (0, true)
  | some received, .multicast => (received.multicastSession, received.multicastRebootFlag)
  | some received, .unicast => (received.unicastSession, received.unicastRebootFlag)

/-! ## The order of the numbers -/

/-- A number comes after another one if it does not have the reboot flag, or both have it and the
session identifier has grown. -/
def Before (p q : Number) : Prop := q.2 = true → p.2 = true ∧ p.1 < q.1

/-- The order of the numbers is transitive. -/
lemma Before.trans {p q r : Number} (hpq : Before p q) (hqr : Before q r) : Before p r := by
  intro hflag
  obtain ⟨hq, hlt⟩ := hqr hflag
  obtain ⟨hp, hlt'⟩ := hpq hq
  exact ⟨hp, UInt16.lt_trans hlt' hlt⟩

/-- What stands for no number comes before every number. -/
lemma none_before {q : Number} (hq : q.1 ≠ 0) : Before (0, true) q :=
  fun _ => ⟨rfl, UInt16.pos_iff_ne_zero.mpr hq⟩

/-- The first number after a restart does not come after any number. -/
lemma not_before_first {p : Number} (hp : p.1 ≠ 0) : ¬ Before p (1, true) := by
  intro h
  have hlt := (h rfl).2
  rw [UInt16.lt_iff_toNat_lt] at hlt
  apply hp
  rw [← UInt16.toNat_inj]
  simp only [UInt16.reduceToNat] at hlt ⊢
  omega

/-- A session number is never zero after an increment. -/
lemma increment_ne_zero (p : Number) : (increment p).1 ≠ 0 := by
  simp only [increment]
  split_ifs with h
  · decide
  · exact h

/-- A number comes before the next one: as long as the flag is set, the session identifier has not
wrapped. -/
lemma before_increment (p : Number) : Before p (increment p) := by
  simp only [increment]
  split_ifs with h
  · intro hflag
    cases hflag
  · intro hflag
    refine ⟨hflag, ?_⟩
    have hlt := p.1.toNat_lt
    have hne : (p.1 + 1).toNat ≠ 0 := fun h0 => h (UInt16.toNat_inj.mp h0)
    simp only [UInt16.lt_iff_toNat_lt, UInt16.toNat_add, UInt16.reduceToNat] at hne ⊢
    omega

/-! ## What the receiver reports and stores -/

/-- The detection compares with the number that is stored for the channel. -/
lemma detects_eq_false_iff (received : Received) (c : Channel) (number : Number) :
    detects received (c == .multicast) number.2 number.1 = false ↔
      Before (heard (some received) c) number := by
  obtain ⟨session, flag⟩ := number
  obtain ⟨multicastSession, unicastSession, multicastRebootFlag, unicastRebootFlag⟩ := received
  cases c with
  | multicast => cases flag <;> cases multicastRebootFlag <;> simp [detects, heard, Before]
  | unicast => cases flag <;> cases unicastRebootFlag <;> simp [detects, heard, Before]

section IsReboot

variable {isMulticast : Address → Bool} (sessionsReceived : Address → Option Received)
variable (sender : Address) {destination : Address} {c : Channel}

/-- No reboot is reported exactly if the number comes after the one that is stored for its channel. -/
lemma isReboot_eq_false_iff (hc : isMulticast destination = (c == .multicast)) {number : Number}
    (hne : number.1 ≠ 0) :
    (isReboot isMulticast sessionsReceived sender destination number.2 number.1).1 = false ↔
      Before (heard (sessionsReceived sender) c) number := by
  simp only [isReboot, hc]
  cases sessionsReceived sender with
  | none => exact iff_of_true rfl (none_before hne)
  | some received =>
    rw [← detects_eq_false_iff]
    simp only
    split_ifs <;> rfl

/-- After a reboot nothing is stored for the sender; otherwise the number is stored for its channel. -/
lemma heard_isReboot (hc : isMulticast destination = (c == .multicast)) (number : Number)
    (d : Channel) :
    heard ((isReboot isMulticast sessionsReceived sender destination number.2 number.1).2 sender) d =
      if (isReboot isMulticast sessionsReceived sender destination number.2 number.1).1 then (0, true)
      else if d = c then number else heard (sessionsReceived sender) d := by
  simp only [isReboot, hc]
  cases sessionsReceived sender with
  | none => cases c <;> cases d <;> simp [heard]
  | some received =>
    simp only
    by_cases hd : detects received (c == .multicast) number.2 number.1 = false
    · simp only [hd]
      cases c <;> cases d <;> simp [heard]
    · simp only [Bool.not_eq_false] at hd
      simp [hd, heard]

/-- A message of another sender changes nothing for this one. -/
lemma isReboot_of_ne {other : Address} (hne : sender ≠ other) (rebootFlag : Bool)
    (session : UInt16) :
    (isReboot isMulticast sessionsReceived other destination rebootFlag session).2 sender =
      sessionsReceived sender := by
  simp only [isReboot]
  cases sessionsReceived other with
  | none => exact Function.update_of_ne hne _ _
  | some received =>
    simp only
    split_ifs <;> exact Function.update_of_ne hne _ _

end IsReboot

/-! ## What the sender sends and stores -/

/-- The number of the next message to an address. -/
def next (sessionsSent : Address → Option Number) (address : Address) : Number :=
  (sessionsSent address).getD (1, true)

section SerializeAndSend

variable (sessionsSent : Address → Option Number) (address : Address) (serialized sent : Bool)

/-- A message that leaves the node has the next number. -/
lemma serializeAndSend_fst :
    (serializeAndSend sessionsSent address serialized sent).1 =
      if serialized && sent then some (next sessionsSent address) else none := by
  cases serialized <;> cases sent <;> cases h : sessionsSent address <;>
    simp [serializeAndSend, getSession, next, h]

/-- The next number is incremented for the address of a message that leaves the node, and only for
this one. -/
lemma next_serializeAndSend (a : Address) :
    next (serializeAndSend sessionsSent address serialized sent).2 a =
      if (serialized && sent) = true ∧ a = address then increment (next sessionsSent a)
      else next sessionsSent a := by
  by_cases ha : a = address
  · subst ha
    cases serialized <;> cases sent <;> cases h : sessionsSent a <;>
      simp [serializeAndSend, getSession, incrementSession, next, h]
  · cases serialized <;> cases sent <;> cases h : sessionsSent address <;>
      simp [serializeAndSend, getSession, incrementSession, next, h, ha]

end SerializeAndSend

end Session

end Vsomeip
