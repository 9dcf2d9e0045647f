import Mathlib.Data.Finset.Max
import Mathlib.Data.List.Nodup
import Mathlib.Data.UInt
import Vsomeip.Lib.Runs

set_option relaxedAutoImplicit false
set_option autoImplicit false

/-!
# The supervision of pinged clients

The stub sends a ping to a client that may be gone, and waits for its answer. One timer is used for
all clients that have been pinged. When it expires, the clients whose ping is as old as the watchdog
timeout are reported.

Whenever the timer is armed again, the time for which it is armed is taken from the ages of the pings
and not from the times that remain.

## Main definitions

* `Vsomeip.PingedClients` — `pinged_clients_` and the timer.
* `Vsomeip.PingedClients.sendPing`, `onPingTimerExpired`, `removeFromPingedClients` — the functions.
* `Vsomeip.PingedClients.Armed` — the timer is armed for the earliest end of a timeout.
* `Vsomeip.PingedClients.Supervised` — what is expected of a run.
* `Vsomeip.PingedClients.Undisturbed` — the condition on a step.

## Main results

* `Vsomeip.PingedClients.supervised_iff` — a run is as expected exactly if all of its steps meet the
  condition.
-/

namespace Vsomeip

/-- `pinged_clients_`, with the times of the pings, and the time for which `pinged_clients_timer_` is
armed. Times are in nanoseconds; `clock` is the present one. -/
structure PingedClients where
  pinged : List (UInt16 × ℕ)
  distinct : (pinged.map Prod.fst).Nodup
  timer : Option ℕ
  clock : ℕ

/-- A call into the stub. `known` says whether there is an endpoint to the client. -/
inductive PingCall
  | sendPing (client : UInt16) (known : Bool)
  | removeFromPingedClients (client : UInt16)
  | onPingTimerExpired
deriving DecidableEq

/-- A call, and the time that has passed since the one before. -/
structure PingStep where
  elapsed : ℕ
  call : PingCall

namespace PingedClients

/-- The nanoseconds of a millisecond. -/
def millisecond : ℕ := 1000000

/-- The loop that looks for the next timeout. `duration_cast` rounds to milliseconds. -/
def nextTimeout (timeout : UInt32) (now : ℕ) (clients : List (UInt16 × ℕ)) : ℕ :=
  clients.foldl (fun next tp =>
    let itsClientsTimeout := (now - tp.2) / millisecond
    if next > itsClientsTimeout then itsClientsTimeout else next) timeout.toNat

variable (timeout : UInt32)

/-- `send_ping`. The client that is pinged is not among those from which the next timeout is taken. -/
def sendPing (s : PingedClients) (client : UInt16) (known : Bool) : PingedClients :=
  if known = false then s
  else if h : client ∈ s.pinged.map Prod.fst then s
  else
    { s with
      pinged := (client, s.clock) :: s.pinged
      distinct := List.nodup_cons.mpr ⟨h, s.distinct⟩
      timer := some (s.clock + nextTimeout timeout s.clock s.pinged * millisecond) }

/-- The clients whose timeout has run out. -/
def timedOut (s : PingedClients) : List (UInt16 × ℕ) :=
  s.pinged.filter fun tp => s.clock - tp.2 ≥ timeout.toNat * millisecond

/-- The clients for which the stub still waits after the timer has expired. -/
def waiting (s : PingedClients) : List (UInt16 × ℕ) :=
  s.pinged.filter fun tp => ¬ s.clock - tp.2 ≥ timeout.toNat * millisecond

/-- `on_ping_timer_expired`. -/
def onPingTimerExpired (s : PingedClients) : PingedClients :=
  { s with
    pinged := s.waiting timeout
    distinct := s.distinct.sublist (List.filter_sublist.map Prod.fst)
    timer := if s.waiting timeout ≠ [] then
        some (s.clock + nextTimeout timeout s.clock (s.waiting timeout) * millisecond)
      else none }

/-- The clients for which the stub still waits after an answer. -/
def unanswered (s : PingedClients) (client : UInt16) : List (UInt16 × ℕ) :=
  s.pinged.filter fun tp => tp.1 ≠ client

/-- `remove_from_pinged_clients`. -/
def removeFromPingedClients (s : PingedClients) (client : UInt16) : PingedClients :=
  if s.pinged = [] then s
  else
    { s with
      pinged := s.unanswered client
      distinct := s.distinct.sublist (List.filter_sublist.map Prod.fst)
      timer := if s.unanswered client ≠ [] then
          some (s.clock + nextTimeout timeout s.clock (s.unanswered client) * millisecond)
        else none }

/-- The state when a call comes. -/
def wait (s : PingedClients) (elapsed : ℕ) : PingedClients :=
  { s with clock := s.clock + elapsed }

/-- A step. -/
def step (s : PingedClients) (a : PingStep) : PingedClients :=
  match a.call with
  | .sendPing client known => (s.wait a.elapsed).sendPing timeout client known
  | .removeFromPingedClients client => (s.wait a.elapsed).removeFromPingedClients timeout client
  | .onPingTimerExpired => (s.wait a.elapsed).onPingTimerExpired timeout

/-- The clients that a step reports with `handle_client_error`. -/
def reports (s : PingedClients) (a : PingStep) : List UInt16 :=
  match a.call with
  | .onPingTimerExpired => (((s.wait a.elapsed).timedOut timeout).map Prod.fst).reverse
  | _ => []

/-- The times at which a client is reported in a run. -/
def reportTimes (client : UInt16) : PingedClients → List PingStep → List ℕ
  | _, [] => []
  | s, a :: as =>
    ((s.reports timeout a).filter (· = client)).map (fun _ => s.clock + a.elapsed) ++
      reportTimes client (s.step timeout a) as

/-- Nothing has been pinged. -/
def init : PingedClients where
  pinged := []
  distinct := List.nodup_nil
  timer := none
  clock := 0

/-! ## What is expected -/

/-- If there are clients, a timer is armed for the earliest moment at which a timeout runs out. -/
def ArmedFor (clients : List (UInt16 × ℕ)) (timer : Option ℕ) : Prop :=
  clients ≠ [] → ∃ tp ∈ clients, (∀ other ∈ clients, tp.2 ≤ other.2) ∧
    timer = some (tp.2 + timeout.toNat * millisecond)

/-- The timer is armed for the earliest moment at which the timeout of a client runs out. -/
def Armed (s : PingedClients) : Prop :=
  ArmedFor timeout s.pinged s.timer

/-- The handler of the timer is not late. -/
def Prompt (s : PingedClients) (a : PingStep) : Prop :=
  ∀ expiry, s.timer = some expiry → s.clock + a.elapsed ≤ expiry

/-- A client that is pinged by a step and was not before. -/
def Pings (s : PingedClients) (a : PingStep) (client : UInt16) : Prop :=
  a.call = .sendPing client true ∧ client ∉ s.pinged.map Prod.fst

/-- What is expected of a run: the timer is armed for the earliest end of a timeout, a client that
does not answer is reported once, when its timeout has run out, and at that moment if the handler of
the timer is not late, and a client that answers in time is not reported. Both are about the calls up
to the one that pings the same client anew. -/
structure Supervised (as : List PingStep) : Prop where
  armed : Runs.Along (step timeout) (fun s a => (s.step timeout a).Armed timeout) init as
  silent : ∀ {before a after} {client : UInt16} {s : PingedClients},
    as = before ++ a :: after → s = Runs.run (step timeout) init before → s.Pings a client →
    (∀ b ∈ after, b.call ≠ .removeFromPingedClients client) →
    Runs.Along (step timeout) (fun s b => ¬ s.Pings b client) (s.step timeout a) after →
      let deadline := s.clock + a.elapsed + timeout.toNat * millisecond
      let times := reportTimes timeout client (s.step timeout a) after
      (times = [] ∨ ∃ time ≥ deadline, times = [time]) ∧
        (Runs.Along (step timeout) Prompt (s.step timeout a) after →
          times = [] ∧ (Runs.run (step timeout) (s.step timeout a) after).clock ≤ deadline ∨
            times = [deadline])
  answered : ∀ {before a between answer after} {client : UInt16} {s : PingedClients},
    as = before ++ a :: (between ++ answer :: after) →
    s = Runs.run (step timeout) init before → s.Pings a client →
    answer.call = .removeFromPingedClients client →
    (Runs.run (step timeout) (s.step timeout a) between).clock + answer.elapsed <
      s.clock + a.elapsed + timeout.toNat * millisecond →
    Runs.Along (step timeout) (fun s b => ¬ s.Pings b client) (s.step timeout a)
      (between ++ answer :: after) →
      reportTimes timeout client (s.step timeout a) (between ++ answer :: after) = []

/-- The other clients for which the stub waits after a step that arms the timer. -/
def others (s : PingedClients) (a : PingStep) : List (UInt16 × ℕ) :=
  match a.call with
  | .sendPing client known =>
    if known = false ∨ client ∈ s.pinged.map Prod.fst then [] else s.pinged
  | .removeFromPingedClients client => (s.wait a.elapsed).unanswered client
  | .onPingTimerExpired => (s.wait a.elapsed).waiting timeout

/-- A step that arms the timer finds no other client for which the stub waits, or by coincidence the
age of the youngest ping, in whole milliseconds, and the age of the oldest one make up the timeout. -/
def Undisturbed (s : PingedClients) (a : PingStep) : Prop :=
  s.others timeout a ≠ [] → ∃ youngest ∈ s.others timeout a, ∃ oldest ∈ s.others timeout a,
    (∀ tp ∈ s.others timeout a, oldest.2 ≤ tp.2 ∧ tp.2 ≤ youngest.2) ∧
      (s.clock + a.elapsed - youngest.2) / millisecond * millisecond +
        (s.clock + a.elapsed - oldest.2) = timeout.toNat * millisecond

/-! ## The next timeout -/

section NextTimeout

variable {timeout}

/-- The loop finds a smallest number. -/
lemma foldl_smallest {α : Type} (f : α → ℕ) (l : List α) (start : ℕ) :
    let m := l.foldl (fun next a => if next > f a then f a else next) start
    (m = start ∨ ∃ a ∈ l, m = f a) ∧ m ≤ start ∧ ∀ a ∈ l, m ≤ f a := by
  induction l generalizing start with
  | nil => exact ⟨Or.inl rfl, le_rfl, nofun⟩
  | cons a l ih =>
    obtain ⟨heq, hstart, hall⟩ := ih (if start > f a then f a else start)
    rw [List.foldl_cons]
    refine ⟨?_, hstart.trans ?_, List.forall_mem_cons.mpr ⟨hstart.trans ?_, hall⟩⟩
    · rcases heq with heq | ⟨b, hb, heq⟩
      · rw [heq]
        split
        · exact Or.inr ⟨a, List.mem_cons_self, rfl⟩
        · exact Or.inl rfl
      · exact Or.inr ⟨b, List.mem_cons_of_mem a hb, heq⟩
    · split <;> omega
    · split <;> omega

/-- The youngest ping decides on the next timeout. -/
lemma nextTimeout_eq {now : ℕ} {l : List (UInt16 × ℕ)} {youngest : UInt16 × ℕ}
    (hmem : youngest ∈ l) (hyoungest : ∀ tp ∈ l, tp.2 ≤ youngest.2) :
    nextTimeout timeout now l = min timeout.toNat ((now - youngest.2) / millisecond) := by
  obtain ⟨heq, hstart, hall⟩ :=
    foldl_smallest (fun tp : UInt16 × ℕ => (now - tp.2) / millisecond) l timeout.toNat
  refine le_antisymm (le_min hstart (hall youngest hmem)) ?_
  rcases heq with heq | ⟨tp, htp, heq⟩
  · exact (min_le_left _ _).trans heq.ge
  · have hle : (now - youngest.2) / millisecond ≤ (now - tp.2) / millisecond :=
      Nat.div_le_div_right (Nat.sub_le_sub_left (hyoungest tp htp) now)
    exact (min_le_right _ _).trans (hle.trans heq.ge)

/-- When the timer is armed for the end of the timeout of the oldest ping. -/
lemma expiry_eq_iff {now oldest youngest : ℕ} (hle : oldest ≤ youngest) (hnow : youngest ≤ now) :
    now + min timeout.toNat ((now - youngest) / millisecond) * millisecond =
        oldest + timeout.toNat * millisecond ↔
      (now - youngest) / millisecond * millisecond + (now - oldest) =
        timeout.toNat * millisecond := by
  have hdiv := Nat.div_mul_le_self (now - youngest) millisecond
  rcases Nat.le_total ((now - youngest) / millisecond) timeout.toNat with hmin | hmin
  · rw [min_eq_right hmin]
    omega
  · rw [min_eq_left hmin]
    have hmul := Nat.mul_le_mul_right millisecond hmin
    omega

/-- Some ping was sent first. -/
lemma exists_oldest {l : List (UInt16 × ℕ)} (hl : l ≠ []) :
    ∃ tp ∈ l, ∀ other ∈ l, tp.2 ≤ other.2 := by
  obtain ⟨tp, htp, hmin⟩ := l.toFinset.exists_min_image Prod.snd
    (List.toFinset_nonempty_iff l |>.mpr hl)
  exact ⟨tp, List.mem_toFinset.mp htp, fun other h => hmin other (List.mem_toFinset.mpr h)⟩

/-- Some ping was sent last. -/
lemma exists_youngest {l : List (UInt16 × ℕ)} (hl : l ≠ []) :
    ∃ tp ∈ l, ∀ other ∈ l, other.2 ≤ tp.2 := by
  obtain ⟨tp, htp, hmax⟩ := l.toFinset.exists_max_image Prod.snd
    (List.toFinset_nonempty_iff l |>.mpr hl)
  exact ⟨tp, List.mem_toFinset.mp htp, fun other h => hmax other (List.mem_toFinset.mpr h)⟩

/-- The timer that is armed for the next timeout of some clients is armed for the end of the timeout of
an oldest one of them exactly under the condition. -/
lemma expiry_iff {now : ℕ} {l : List (UInt16 × ℕ)} (hl : l ≠ []) (hnow : ∀ tp ∈ l, tp.2 ≤ now) :
    (∃ tp ∈ l, (∀ other ∈ l, tp.2 ≤ other.2) ∧
        now + nextTimeout timeout now l * millisecond = tp.2 + timeout.toNat * millisecond) ↔
      ∃ youngest ∈ l, ∃ oldest ∈ l, (∀ tp ∈ l, oldest.2 ≤ tp.2 ∧ tp.2 ≤ youngest.2) ∧
        (now - youngest.2) / millisecond * millisecond + (now - oldest.2) =
          timeout.toNat * millisecond := by
  constructor
  · rintro ⟨tp, htp, hmin, hexpiry⟩
    obtain ⟨youngest, hyoungest, hmax⟩ := exists_youngest hl
    rw [nextTimeout_eq hyoungest hmax] at hexpiry
    exact ⟨youngest, hyoungest, tp, htp, fun other h => ⟨hmin other h, hmax other h⟩,
      (expiry_eq_iff (hmin youngest hyoungest) (hnow youngest hyoungest)).mp hexpiry⟩
  · rintro ⟨youngest, hyoungest, oldest, holdest, hbetween, hexpiry⟩
    refine ⟨oldest, holdest, fun other h => (hbetween other h).1, ?_⟩
    rw [nextTimeout_eq hyoungest fun other h => (hbetween other h).2]
    exact (expiry_eq_iff (hbetween youngest hyoungest).1 (hnow youngest hyoungest)).mpr hexpiry

end NextTimeout

/-! ## Steps -/

section Steps

variable {timeout} {s : PingedClients} {a : PingStep}

/-- What the steps keep: the timer is armed as expected, and no ping is from the future. -/
structure Inv (timeout : UInt32) (s : PingedClients) : Prop where
  armed : s.Armed timeout
  past : ∀ tp ∈ s.pinged, tp.2 ≤ s.clock

/-- A step moves the clock by the time that it takes. -/
lemma clock_step : (s.step timeout a).clock = s.clock + a.elapsed := by
  obtain ⟨elapsed, call⟩ := a
  cases call with
  | sendPing client known =>
    simp only [step, sendPing]
    split_ifs <;> rfl
  | removeFromPingedClients client =>
    simp only [step, removeFromPingedClients]
    split <;> rfl
  | onPingTimerExpired => rfl

/-- A client without an endpoint, or one that was pinged before, is not pinged. -/
lemma step_sendPing_of_not_pings {elapsed : ℕ} {client : UInt16} {known : Bool}
    (h : known = false ∨ client ∈ s.pinged.map Prod.fst) :
    s.step timeout ⟨elapsed, .sendPing client known⟩ = s.wait elapsed := by
  by_cases hknown : known = false
  · exact if_pos hknown
  · exact (if_neg hknown).trans (dif_pos (h.resolve_left hknown))

/-- What a ping of a client does that is known and not pinged yet. -/
lemma step_sendPing {elapsed : ℕ} {client : UInt16} {known : Bool}
    (h : ¬ (known = false ∨ client ∈ s.pinged.map Prod.fst)) :
    (s.step timeout ⟨elapsed, .sendPing client known⟩).pinged =
        (client, s.clock + elapsed) :: s.pinged ∧
      (s.step timeout ⟨elapsed, .sendPing client known⟩).timer =
        some (s.clock + elapsed +
          nextTimeout timeout (s.clock + elapsed) s.pinged * millisecond) := by
  obtain ⟨hknown, hmem⟩ := not_or.mp h
  have hmem' : client ∉ (s.wait elapsed).pinged.map Prod.fst := hmem
  simp only [step, sendPing, if_neg hknown, dif_neg hmem']
  exact ⟨rfl, rfl⟩

/-- What an answer does: the timer is set anew for those who are left. -/
lemma step_removeFromPingedClients {elapsed : ℕ} {client : UInt16} :
    (s.step timeout ⟨elapsed, .removeFromPingedClients client⟩).pinged = s.unanswered client ∧
      (s.unanswered client ≠ [] →
        (s.step timeout ⟨elapsed, .removeFromPingedClients client⟩).timer =
          some (s.clock + elapsed +
            nextTimeout timeout (s.clock + elapsed) (s.unanswered client) * millisecond)) := by
  by_cases hnil : s.pinged = []
  · have hunanswered : s.unanswered client = [] := by rw [unanswered, hnil, List.filter_nil]
    have hstep : s.step timeout ⟨elapsed, .removeFromPingedClients client⟩ = s.wait elapsed :=
      if_pos hnil
    rw [hstep, hunanswered]
    exact ⟨hnil, fun h => absurd rfl h⟩
  · have hnil' : (s.wait elapsed).pinged ≠ [] := hnil
    simp only [step, removeFromPingedClients, if_neg hnil']
    exact ⟨rfl, fun h => if_pos h⟩

/-- What an expiry does: who has not waited long enough stays. -/
lemma step_onPingTimerExpired {elapsed : ℕ} :
    (s.step timeout ⟨elapsed, .onPingTimerExpired⟩).pinged = (s.wait elapsed).waiting timeout ∧
      ((s.wait elapsed).waiting timeout ≠ [] →
        (s.step timeout ⟨elapsed, .onPingTimerExpired⟩).timer =
          some (s.clock + elapsed + nextTimeout timeout (s.clock + elapsed)
            ((s.wait elapsed).waiting timeout) * millisecond)) :=
  ⟨rfl, fun h => if_pos h⟩

/-- The clients that are pinged after a step: those that are left, and a new one. -/
lemma mem_pinged_step {tp : UInt16 × ℕ} (h : tp ∈ (s.step timeout a).pinged) :
    tp ∈ s.pinged ∨ s.Pings a tp.1 ∧ tp.2 = s.clock + a.elapsed := by
  obtain ⟨elapsed, call⟩ := a
  cases call with
  | sendPing client known =>
    by_cases hpings : known = false ∨ client ∈ s.pinged.map Prod.fst
    · rw [step_sendPing_of_not_pings hpings] at h
      exact Or.inl h
    · rw [(step_sendPing hpings).1] at h
      rcases List.mem_cons.mp h with rfl | h
      · obtain ⟨hknown, hmem⟩ := not_or.mp hpings
        rw [Bool.not_eq_false] at hknown
        exact Or.inr ⟨⟨by rw [hknown], hmem⟩, rfl⟩
      · exact Or.inl h
  | removeFromPingedClients client =>
    rw [step_removeFromPingedClients.1] at h
    exact Or.inl (List.mem_of_mem_filter h)
  | onPingTimerExpired => exact Or.inl (List.mem_of_mem_filter h)

/-- Pings lie in the past, also after a step. -/
lemma past_step (hpast : ∀ tp ∈ s.pinged, tp.2 ≤ s.clock) :
    ∀ tp ∈ (s.step timeout a).pinged, tp.2 ≤ (s.step timeout a).clock := by
  intro tp htp
  rw [clock_step]
  rcases mem_pinged_step htp with h | ⟨-, h⟩
  · exact (hpast tp h).trans (Nat.le_add_right _ _)
  · exact h.le

/-- The timer is armed for the clients that are left. -/
lemma armedFor_iff {now : ℕ} {l : List (UInt16 × ℕ)} (hnow : ∀ tp ∈ l, tp.2 ≤ now)
    {timer : Option ℕ}
    (htimer : l ≠ [] → timer = some (now + nextTimeout timeout now l * millisecond)) :
    ArmedFor timeout l timer ↔
      (l ≠ [] → ∃ youngest ∈ l, ∃ oldest ∈ l, (∀ tp ∈ l, oldest.2 ≤ tp.2 ∧ tp.2 ≤ youngest.2) ∧
        (now - youngest.2) / millisecond * millisecond + (now - oldest.2) =
          timeout.toNat * millisecond) := by
  refine imp_congr_right fun hl => ?_
  rw [htimer hl, ← expiry_iff hl hnow]
  simp only [Option.some.injEq]

/-- With a new client, which has the youngest ping, the oldest one is the same. -/
lemma armedFor_cons_iff {now : ℕ} {client : UInt16} {l : List (UInt16 × ℕ)} (hl : l ≠ [])
    (hnow : ∀ tp ∈ l, tp.2 ≤ now) {timer : Option ℕ} :
    ArmedFor timeout ((client, now) :: l) timer ↔ ArmedFor timeout l timer := by
  rw [ArmedFor, ArmedFor, imp_iff_right hl, imp_iff_right (List.cons_ne_nil _ _)]
  obtain ⟨oldest, hmem, holdest⟩ := exists_oldest hl
  constructor
  · rintro ⟨tp, htp, hmin, htimer⟩
    have heq : oldest.2 = tp.2 := by
      refine le_antisymm ?_ (hmin oldest (List.mem_cons_of_mem _ hmem))
      rcases List.mem_cons.mp htp with rfl | htp
      · exact hnow oldest hmem
      · exact holdest tp htp
    exact ⟨oldest, hmem, holdest, by rw [htimer, heq]⟩
  · rintro ⟨tp, htp, hmin, htimer⟩
    exact ⟨tp, List.mem_cons_of_mem _ htp, List.forall_mem_cons.mpr ⟨hnow tp htp, hmin⟩, htimer⟩

/-- After a step the timer is armed as expected exactly under the condition. -/
lemma armed_step_iff (hinv : Inv timeout s) :
    (s.step timeout a).Armed timeout ↔ s.Undisturbed timeout a := by
  have hnow : ∀ tp ∈ s.pinged, tp.2 ≤ s.clock + a.elapsed :=
    fun tp h => (hinv.past tp h).trans (Nat.le_add_right _ _)
  obtain ⟨elapsed, call⟩ := a
  cases call with
  | sendPing client known =>
    by_cases hpings : known = false ∨ client ∈ s.pinged.map Prod.fst
    · have hothers : s.others timeout ⟨elapsed, .sendPing client known⟩ = [] := if_pos hpings
      refine iff_of_true ?_ fun h => absurd hothers h
      rw [step_sendPing_of_not_pings hpings]
      exact hinv.armed
    · have hothers : s.others timeout ⟨elapsed, .sendPing client known⟩ = s.pinged :=
        if_neg hpings
      rw [Undisturbed, hothers, Armed, (step_sendPing hpings).1, (step_sendPing hpings).2]
      by_cases hnil : s.pinged = []
      · refine iff_of_true (fun _ => ⟨_, List.mem_cons_self, ?_, ?_⟩) fun h => absurd hnil h
        · rw [hnil]
          exact fun other h => (List.mem_singleton.mp h) ▸ le_rfl
        · rw [hnil]
          rfl
      · rw [armedFor_cons_iff hnil hnow]
        exact armedFor_iff hnow fun _ => rfl
  | removeFromPingedClients client =>
    rw [Armed, step_removeFromPingedClients.1]
    exact armedFor_iff (fun tp h => hnow tp (List.mem_of_mem_filter h))
      step_removeFromPingedClients.2
  | onPingTimerExpired =>
    rw [Armed, step_onPingTimerExpired.1]
    exact armedFor_iff (fun tp h => hnow tp (List.mem_of_mem_filter h)) step_onPingTimerExpired.2

/-- The timer is armed as expected in a run exactly if its steps meet the condition. -/
lemma along_armed_iff (as : List PingStep) :
    Runs.Along (step timeout) (fun s a => (s.step timeout a).Armed timeout) init as ↔
      Runs.Along (step timeout) (Undisturbed timeout) init as :=
  Runs.along_iff (I := Inv timeout) (E := fun _ _ => True)
    (fun hinv _ hgood => ⟨⟨(armed_step_iff hinv).mpr hgood, past_step hinv.past⟩,
      (armed_step_iff hinv).mpr hgood⟩)
    (fun hinv _ hbad h => hbad ((armed_step_iff hinv).mp h))
    ⟨fun h => absurd rfl h, nofun⟩ (Runs.along_of_forall fun _ _ => trivial)

/-! ## The reports of a client -/

variable {client : UInt16} {as : List PingStep}

/-- The clock does not go back. -/
lemma clock_le_run (s : PingedClients) (as : List PingStep) :
    s.clock ≤ (Runs.run (step timeout) s as).clock := by
  induction as generalizing s with
  | nil => exact le_rfl
  | cons a as ih =>
    have hstep := ih (s.step timeout a)
    rw [clock_step] at hstep
    exact (Nat.le_add_right _ _).trans hstep

/-- The times of the reports in two runs, one after the other. -/
lemma reportTimes_append (s : PingedClients) (as bs : List PingStep) :
    reportTimes timeout client s (as ++ bs) =
      reportTimes timeout client s as ++
        reportTimes timeout client (Runs.run (step timeout) s as) bs := by
  induction as generalizing s with
  | nil => rfl
  | cons a as ih => rw [List.cons_append, reportTimes, ih, reportTimes, List.append_assoc]; rfl

/-- A step that reports a client is the expiry of the timer, after the timeout of the client. -/
lemma mem_reports_iff : client ∈ s.reports timeout a ↔ a.call = .onPingTimerExpired ∧
    ∃ t, (client, t) ∈ s.pinged ∧ s.clock + a.elapsed - t ≥ timeout.toNat * millisecond := by
  obtain ⟨elapsed, call⟩ := a
  cases call with
  | sendPing _ _ | removeFromPingedClients _ =>
    exact iff_of_false List.not_mem_nil fun h => absurd h.1 nofun
  | onPingTimerExpired =>
    rw [reports, List.mem_reverse, List.mem_map, and_iff_right rfl]
    constructor
    · rintro ⟨⟨c, t⟩, htp, rfl⟩
      obtain ⟨hmem, hold⟩ := List.mem_filter.mp htp
      exact ⟨t, hmem, of_decide_eq_true hold⟩
    · rintro ⟨t, hmem, hold⟩
      exact ⟨(client, t), List.mem_filter.mpr ⟨hmem, decide_eq_true hold⟩, rfl⟩

/-- A step reports a client once at most. -/
lemma filter_reports : (s.reports timeout a).filter (· = client) =
    if client ∈ s.reports timeout a then [client] else [] := by
  have hnodup : (s.reports timeout a).Nodup := by
    obtain ⟨elapsed, call⟩ := a
    cases call with
    | sendPing _ _ | removeFromPingedClients _ => exact List.nodup_nil
    | onPingTimerExpired =>
      exact List.nodup_reverse.mpr (s.distinct.sublist (List.filter_sublist.map Prod.fst))
  rw [List.filter_eq, hnodup.count]
  split_ifs <;> rfl

/-- The times of the reports from the first step on. -/
lemma reportTimes_cons : reportTimes timeout client s (a :: as) =
    (if client ∈ s.reports timeout a then [s.clock + a.elapsed] else []) ++
      reportTimes timeout client (s.step timeout a) as := by
  rw [reportTimes, filter_reports]
  split_ifs <;> rfl

/-- A client that is not pinged stays so in a step that does not ping it. -/
lemma not_mem_step (hmem : client ∉ s.pinged.map Prod.fst) (ha : ¬ s.Pings a client) :
    client ∉ (s.step timeout a).pinged.map Prod.fst := by
  intro h
  obtain ⟨tp, htp, rfl⟩ := List.mem_map.mp h
  rcases mem_pinged_step htp with h | ⟨h, -⟩
  · exact hmem (List.mem_map_of_mem h)
  · exact ha h

/-- A client that is not pinged is not reported. -/
lemma reportTimes_of_not_mem (hmem : client ∉ s.pinged.map Prod.fst)
    (has : Runs.Along (step timeout) (fun s a => ¬ s.Pings a client) s as) :
    reportTimes timeout client s as = [] := by
  induction as generalizing s with
  | nil => rfl
  | cons a as ih =>
    rw [reportTimes_cons, ih (not_mem_step hmem has.1) has.2, if_neg]
    · rfl
    · intro h
      obtain ⟨-, t, ht, -⟩ := mem_reports_iff.mp h
      exact hmem (List.mem_map_of_mem ht)

/-- A client is not reported before its timeout has run out. -/
lemma reportTimes_of_early {since : ℕ} (hpast : ∀ tp ∈ s.pinged, tp.2 ≤ s.clock)
    (hsince : ∀ t, (client, t) ∈ s.pinged → since ≤ t)
    (has : Runs.Along (step timeout) (fun s a => ¬ s.Pings a client) s as)
    (hearly : (Runs.run (step timeout) s as).clock < since + timeout.toNat * millisecond) :
    reportTimes timeout client s as = [] := by
  induction as generalizing s with
  | nil => rfl
  | cons a as ih =>
    have hclock : s.clock + a.elapsed ≤ (Runs.run (step timeout) s (a :: as)).clock := by
      rw [← @clock_step timeout]
      exact clock_le_run _ as
    rw [reportTimes_cons, if_neg, List.nil_append]
    · refine ih (past_step hpast) (fun t ht => ?_) has.2 hearly
      rcases mem_pinged_step ht with h | ⟨h, -⟩
      · exact hsince t h
      · exact absurd h has.1
    · intro h
      obtain ⟨-, t, ht, hold⟩ := mem_reports_iff.mp h
      have := hsince t ht
      have : t ≤ s.clock := hpast _ ht
      omega

/-- A step that does not answer for a client leaves it pinged, or reports it. -/
lemma pinged_step {t : ℕ} (hpast : ∀ tp ∈ s.pinged, tp.2 ≤ s.clock)
    (ht : (client, t) ∈ s.pinged)
    (hanswer : a.call ≠ .removeFromPingedClients client) :
    (client, t) ∈ (s.step timeout a).pinged ∧ client ∉ s.reports timeout a ∨
      client ∉ (s.step timeout a).pinged.map Prod.fst ∧ client ∈ s.reports timeout a ∧
        t + timeout.toNat * millisecond ≤ s.clock + a.elapsed := by
  have hunique : ∀ t', (client, t') ∈ s.pinged → t' = t := fun t' h =>
    congrArg Prod.snd (List.inj_on_of_nodup_map s.distinct h ht rfl)
  obtain ⟨elapsed, call⟩ := a
  cases call with
  | sendPing other known =>
    refine Or.inl ⟨?_, fun h => absurd (mem_reports_iff.mp h).1 nofun⟩
    by_cases hpings : known = false ∨ other ∈ s.pinged.map Prod.fst
    · rw [step_sendPing_of_not_pings hpings]
      exact ht
    · rw [(step_sendPing hpings).1]
      exact List.mem_cons_of_mem _ ht
  | removeFromPingedClients other =>
    refine Or.inl ⟨?_, fun h => absurd (mem_reports_iff.mp h).1 nofun⟩
    rw [step_removeFromPingedClients.1]
    refine List.mem_filter.mpr ⟨ht, decide_eq_true fun h => hanswer ?_⟩
    rw [show client = other from h]
  | onPingTimerExpired =>
    by_cases hold : s.clock + elapsed - t ≥ timeout.toNat * millisecond
    · refine Or.inr ⟨fun h => ?_, mem_reports_iff.mpr ⟨rfl, t, ht, hold⟩, ?_⟩
      · obtain ⟨⟨c, t'⟩, htp, rfl⟩ := List.mem_map.mp h
        obtain ⟨hmem, hyoung⟩ := List.mem_filter.mp htp
        rw [hunique t' hmem] at hyoung
        exact absurd hold (of_decide_eq_true hyoung)
      · have : t ≤ s.clock := hpast _ ht
        dsimp only at hold ⊢
        omega
    · refine Or.inl ⟨List.mem_filter.mpr ⟨ht, decide_eq_true hold⟩, fun h => ?_⟩
      obtain ⟨-, t', ht', hold'⟩ := mem_reports_iff.mp h
      rw [hunique t' ht'] at hold'
      exact hold hold'

/-- A client that is pinged and does not answer is reported once at most, when its timeout has run
out. -/
lemma reportTimes_of_pinged {t : ℕ} (hpast : ∀ tp ∈ s.pinged, tp.2 ≤ s.clock)
    (ht : (client, t) ∈ s.pinged) (hanswer : ∀ a ∈ as, a.call ≠ .removeFromPingedClients client)
    (hping : Runs.Along (step timeout) (fun s a => ¬ s.Pings a client) s as) :
    reportTimes timeout client s as = [] ∨
      ∃ time ≥ t + timeout.toNat * millisecond, reportTimes timeout client s as = [time] := by
  induction as generalizing s with
  | nil => exact Or.inl rfl
  | cons a as ih =>
    obtain ⟨hanswer', hanswer⟩ := List.forall_mem_cons.mp hanswer
    rw [reportTimes_cons]
    rcases pinged_step hpast ht hanswer' with ⟨hleft, hnone⟩ | ⟨hgone, hreport, htime⟩
    · rw [if_neg hnone, List.nil_append]
      exact ih (past_step hpast) hleft hanswer hping.2
    · rw [if_pos hreport, reportTimes_of_not_mem hgone hping.2]
      exact Or.inr ⟨_, htime, rfl⟩

/-- If the timer is always armed as expected and its handler is not late, the client is reported when
its timeout runs out. -/
lemma reportTimes_of_prompt {t : ℕ} (hpast : ∀ tp ∈ s.pinged, tp.2 ≤ s.clock)
    (harmed : s.Armed timeout)
    (halong : Runs.Along (step timeout) (fun s a => (s.step timeout a).Armed timeout) s as)
    (hprompt : Runs.Along (step timeout) Prompt s as) (ht : (client, t) ∈ s.pinged)
    (hclock : s.clock ≤ t + timeout.toNat * millisecond)
    (hanswer : ∀ a ∈ as, a.call ≠ .removeFromPingedClients client)
    (hping : Runs.Along (step timeout) (fun s a => ¬ s.Pings a client) s as) :
    reportTimes timeout client s as = [] ∧
        (Runs.run (step timeout) s as).clock ≤ t + timeout.toNat * millisecond ∨
      reportTimes timeout client s as = [t + timeout.toNat * millisecond] := by
  induction as generalizing s with
  | nil => exact Or.inl ⟨rfl, hclock⟩
  | cons a as ih =>
    obtain ⟨hanswer', hanswer⟩ := List.forall_mem_cons.mp hanswer
    -- the timer is armed for the end of a timeout that is not later
    obtain ⟨tp, -, hmin, htimer⟩ := harmed (List.ne_nil_of_mem ht)
    have hnow : s.clock + a.elapsed ≤ t + timeout.toNat * millisecond :=
      (hprompt.1 _ htimer).trans (Nat.add_le_add_right (hmin _ ht) _)
    rw [reportTimes_cons]
    rcases pinged_step hpast ht hanswer' with ⟨hleft, hnone⟩ | ⟨hgone, hreport, htime⟩
    · rw [if_neg hnone, List.nil_append]
      exact ih (past_step hpast) halong.1 halong.2 hprompt.2 hleft
        (clock_step.trans_le hnow) hanswer hping.2
    · rw [if_pos hreport, reportTimes_of_not_mem hgone hping.2, List.append_nil]
      exact Or.inr (congrArg (fun time => [time]) (le_antisymm hnow htime))

/-- A client that is pinged by a step. -/
lemma Pings.mem_step (h : s.Pings a client) :
    (client, s.clock + a.elapsed) ∈ (s.step timeout a).pinged := by
  obtain ⟨elapsed, call⟩ := a
  obtain ⟨hcall, hmem⟩ := h
  obtain rfl : call = .sendPing client true := hcall
  rw [(step_sendPing (not_or.mpr ⟨Bool.noConfusion, hmem⟩)).1]
  exact List.mem_cons_self

/-- In every run the pings lie in the past. -/
lemma past_run (timeout : UInt32) (as : List PingStep) : ∀ tp ∈ (Runs.run (step timeout) init as).pinged,
    tp.2 ≤ (Runs.run (step timeout) init as).clock :=
  Runs.inv_run (I := fun s : PingedClients => ∀ tp ∈ s.pinged, tp.2 ≤ s.clock)
    (P := fun _ => True) (fun hpast _ => past_step hpast)
    (fun _ h => absurd h List.not_mem_nil) fun _ _ => trivial

/-- An answered client is not pinged any more. -/
lemma not_mem_removeFromPingedClients {elapsed : ℕ} :
    client ∉ (s.step timeout ⟨elapsed, .removeFromPingedClients client⟩).pinged.map Prod.fst := by
  rw [step_removeFromPingedClients.1]
  intro h
  obtain ⟨tp, htp, heq⟩ := List.mem_map.mp h
  exact absurd heq (of_decide_eq_true (List.mem_filter.mp htp).2)

end Steps

/-- **Ping supervision.** The timer is armed for the earliest end of a timeout in all states of a run,
and each client that does not answer is reported once at that moment, while one that answers in time
is not, exactly if whenever the timer is armed the stub waits for no other client, or the ages of the
youngest and the oldest of the other pings make up the timeout by coincidence.

**Proof sketch.** The timer is armed for the age of the youngest ping, which has to be the time that
remains for the oldest one. What is reported follows by induction on the run: a client leaves the
table only with an answer or with a report. -/
theorem supervised_iff (timeout : UInt32) (as : List PingStep) :
    Supervised timeout as ↔ Runs.Along (step timeout) (Undisturbed timeout) init as := by
  constructor
  · exact fun h => (along_armed_iff as).mp h.armed
  · intro hgood
    have harmed := (along_armed_iff as).mpr hgood
    refine ⟨harmed, ?_, ?_⟩
    · intro before a after client s has hs hpings hanswer hping
      subst has hs
      have hpast := @past_step timeout _ a (past_run timeout before)
      obtain ⟨-, harmed', halong⟩ := (Runs.along_append _ _ _).mp harmed
      refine ⟨reportTimes_of_pinged hpast hpings.mem_step hanswer hping, fun hprompt => ?_⟩
      exact reportTimes_of_prompt hpast harmed' halong hprompt hpings.mem_step
        (clock_step.trans_le (Nat.le_add_right _ _)) hanswer hping
    · intro before a between answer after client s has hs hpings hcall hearly hping
      subst has hs
      have hpast := @past_step timeout _ a (past_run timeout before)
      obtain ⟨hbetween, -, hafter⟩ := (Runs.along_append _ _ _).mp hping
      rw [reportTimes_append, reportTimes_of_early hpast (fun t ht => ?_) hbetween
        ((Nat.le_add_right _ _).trans_lt hearly), List.nil_append, reportTimes_cons, if_neg,
        List.nil_append]
      · obtain ⟨elapsed, call⟩ := answer
        obtain rfl : call = .removeFromPingedClients client := hcall
        exact reportTimes_of_not_mem not_mem_removeFromPingedClients hafter
      · exact fun h => absurd (hcall.symm.trans (mem_reports_iff.mp h).1) nofun
      · exact (congrArg Prod.snd (List.inj_on_of_nodup_map
          (PingedClients.distinct _) ht hpings.mem_step rfl)).ge

/-- A second client is pinged one second after the first one. -/
def secondPing : List PingStep :=
  [⟨0, .sendPing 0x1001 true⟩, ⟨1000 * millisecond, .sendPing 0x1002 true⟩]

/-- With a timeout of five seconds the timer is then armed for one second. -/
theorem not_supervised : ¬ ∀ (timeout : UInt32) (as : List PingStep), Supervised timeout as := by
  intro h
  have harmed := (h 5000 secondPing).armed.2.1
  obtain ⟨tp, htp, -, htimer⟩ := harmed (List.cons_ne_nil _ _)
  have hexpiry : 2000 * millisecond = tp.2 + 5000 * millisecond := Option.some.inj htimer
  rw [millisecond] at hexpiry
  omega

end PingedClients

end Vsomeip
