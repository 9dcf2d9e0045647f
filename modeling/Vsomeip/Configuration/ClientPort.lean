import Mathlib.Data.Finset.Basic
import Vsomeip.Lib.Loop
import Vsomeip.Routing.OfferService

set_option relaxedAutoImplicit false
set_option autoImplicit false

/-!
# The port of a client

`configuration_impl::get_client_port` chooses the local port from which a client talks to a remote
service. The configuration names ports for a service and instance, and ranges of client ports for
ranges of remote ports. Both bounds of a range belong to it, and the search through a range counts
with 16 bits.

## Main definitions

* `Vsomeip.ConfiguredClient` — `cfg::client`.
* `Vsomeip.getClientPort`, `Vsomeip.findPort` — the functions, with fuel.
* `Vsomeip.PortConfigured` — the ports from which they may choose.
* `Vsomeip.ChoosesPort` — what a caller relies on.
* `Vsomeip.AvoidsIllegalPort` — the search does not come to the port 65535.

## Main results

* `Vsomeip.choosesPort_iff` — a caller gets what it relies on exactly if the search does not come to
  the port 65535.
-/

namespace Vsomeip

/-- `std::set<uint16_t>`, in the order in which it is traversed. -/
structure PortSet where
  ports : List UInt16
  sorted : ports.Pairwise (· < ·)

/-- `cfg::client`. The maps have an entry for both transports. -/
structure ConfiguredClient where
  service : UInt16
  instance_ : UInt16
  ports : Bool → PortSet
  remotePorts : Bool → UInt16 × UInt16
  clientPorts : Bool → UInt16 × UInt16

/-- `is_in_port_range`. -/
def isInPortRange (port : UInt16) (portRange : UInt16 × UInt16) : Prop :=
  portRange.1 ≤ port ∧ port ≤ portRange.2

instance (port : UInt16) (portRange : UInt16 × UInt16) : Decidable (isInPortRange port portRange) :=
  inferInstanceAs (Decidable (_ ∧ _))

/-- `find_client`: the first client that is configured for a service and instance. -/
def findClient (clients : List ConfiguredClient) (service instance_ : UInt16) :
    Option ConfiguredClient :=
  clients.find? fun c => c.service = service ∧ c.instance_ = instance_

/-- The ports that are configured for a service and instance, in their order. -/
def specificPorts (clients : List ConfiguredClient) (service instance_ : UInt16) (reliable : Bool) :
    List UInt16 :=
  match findClient clients service instance_ with
  | some c => (c.ports reliable).ports
  | none => []

/-- A round of the loop through the ports of a range that ends with `last`. -/
def portRound (used : Finset UInt16) (last port : UInt16) : UInt16 ⊕ Option UInt16 :=
  if port ≤ last then
    if port ∉ used then .inr (some port) else .inl (port + 1)
  else .inr none

/-- `find_port` from an entry of the list on: whether ports are configured, and the port. -/
def findPort (remote : UInt16) (reliable : Bool) (used : Finset UInt16) :
    Bool → List ConfiguredClient → ℕ → Option (Bool × UInt16)
  | isConfigured, [], _ => some (isConfigured, illegalPort)
  | isConfigured, c :: cs, fuel =>
    if isInPortRange remote (c.remotePorts reliable) then
      (Loop.run (portRound used (c.clientPorts reliable).2) (c.clientPorts reliable).1 fuel).bind
        fun
        | some port => some (true, port)
        | none => findPort remote reliable used true cs fuel
    else findPort remote reliable used isConfigured cs fuel

/-- `get_client_port`: its result and `_client_port`. -/
def getClientPort (clients : List ConfiguredClient) (service instance_ remote : UInt16)
    (reliable : Bool) (used : Bool → Finset UInt16) (fuel : ℕ) : Option (Bool × UInt16) :=
  let itsPorts := specificPorts clients service instance_ reliable
  match itsPorts.find? fun port => port ∉ used reliable with
  | some port => some (true, port)
  | none =>
    (findPort remote reliable (used reliable) false clients fuel).map fun found =>
      if found.1 ∧ found.2 ≠ illegalPort then (true, found.2)
      -- nothing is configured, the operating system chooses
      else if itsPorts = [] ∧ found.1 = false then (true, illegalPort)
      else (false, illegalPort)

section Purpose

variable (clients : List ConfiguredClient) (service instance_ remote : UInt16) (reliable : Bool)
variable (used : Bool → Finset UInt16)

/-- A port that may be chosen: it is configured for the service and instance, or lies in the range of
client ports of an entry whose range of remote ports contains the remote port. -/
def PortConfigured (port : UInt16) : Prop :=
  port ∈ specificPorts clients service instance_ reliable ∨
    ∃ c ∈ clients, isInPortRange remote (c.remotePorts reliable) ∧
      isInPortRange port (c.clientPorts reliable)

/-- There are ports for the service and instance, or an entry for the remote port. -/
def ClientConfigured : Prop :=
  specificPorts clients service instance_ reliable ≠ [] ∨
    ∃ c ∈ clients, isInPortRange remote (c.remotePorts reliable)

/-- A configured port that is not in use, and a real one. -/
def PortUsable (port : UInt16) : Prop :=
  port ≠ illegalPort ∧ PortConfigured clients service instance_ remote reliable port ∧
    port ∉ used reliable

/-- What `create_remote_client` relies on when it asks for a client port. -/
structure ChoosesPort : Prop where
  /-- The call comes back. -/
  returns : ∃ r, Loop.Returns (getClientPort clients service instance_ remote reliable used) r
  /-- The port that is chosen may be used. -/
  sound : ∀ {port},
    Loop.Returns (getClientPort clients service instance_ remote reliable used) (true, port) →
      port ≠ illegalPort → PortUsable clients service instance_ remote reliable used port
  /-- If a port may be used, one is chosen. -/
  complete : (∃ port, PortUsable clients service instance_ remote reliable used port) →
    ∃ port, PortUsable clients service instance_ remote reliable used port ∧
      Loop.Returns (getClientPort clients service instance_ remote reliable used) (true, port)
  /-- The choice is left to the operating system only if nothing is configured. -/
  dynamic :
    Loop.Returns (getClientPort clients service instance_ remote reliable used) (true, illegalPort) →
      ¬ ClientConfigured clients service instance_ remote reliable
  /-- The call fails only if all configured ports are in use. -/
  exhausted : ∀ {port},
    Loop.Returns (getClientPort clients service instance_ remote reliable used) (false, port) →
      ClientConfigured clients service instance_ remote reliable ∧
        ∀ p, PortConfigured clients service instance_ remote reliable p → p ∈ used reliable

/-- The search through the ranges comes to its end at an entry: the entry is for the remote port, and
has a port that is not in use, or its range has no port behind it. -/
def EndsSearch (c : ConfiguredClient) : Prop :=
  isInPortRange remote (c.remotePorts reliable) ∧
    ((∃ p, isInPortRange p (c.clientPorts reliable) ∧ p ∉ used reliable) ∨
      (c.clientPorts reliable).2 = illegalPort)

/-- The search does not come to the port 65535, or counts over it to a port that may be used. -/
structure AvoidsIllegalPort : Prop where
  /-- If a port that is configured for the service and instance is not in use, then a real one. -/
  specific : (∃ p ∈ specificPorts clients service instance_ reliable, p ∉ used reliable) →
    ∃ p ∈ specificPorts clients service instance_ reliable, p ∉ used reliable ∧ p ≠ illegalPort
  /-- Otherwise the first entry at which the search ends has a real port that is not in use, or all of
  its ports are in use and the first port of all that is not in use is in the range of another. -/
  generic : (∀ p ∈ specificPorts clients service instance_ reliable, p ∈ used reliable) →
    ∀ {before c after}, clients = before ++ c :: after → EndsSearch remote reliable used c →
      (∀ b ∈ before, ¬ EndsSearch remote reliable used b) →
      (∃ p, isInPortRange p (c.clientPorts reliable) ∧ p ∉ used reliable ∧ p ≠ illegalPort) ∨
        illegalPort ∈ used reliable ∧ ∃ q, q ∉ used reliable ∧ (∀ p < q, p ∈ used reliable) ∧
          ∃ c' ∈ clients, isInPortRange remote (c'.remotePorts reliable) ∧
            isInPortRange q (c'.clientPorts reliable)

end Purpose

/-! ## The loop through a range -/

section Scan

variable {used : Finset UInt16} {last first port : UInt16}

/-- The illegal port is the largest one. -/
lemma le_illegalPort (port : UInt16) : port ≤ illegalPort :=
  UInt16.le_iff_toNat_le.mpr (Nat.le_of_lt_succ port.toNat_lt)

/-- The port after one that is not the last. -/
lemma toNat_succ_of_lt {a b : UInt16} (h : a < b) : (a + 1).toNat = a.toNat + 1 := by
  have hab := UInt16.lt_iff_toNat_lt.mp h
  have hb := b.toNat_lt
  rw [UInt16.toNat_add, UInt16.toNat_one]
  omega

/-- The port after one below another is at most this. -/
lemma succ_le_of_lt {a b : UInt16} (h : a < b) : a + 1 ≤ b := by
  rw [UInt16.le_iff_toNat_le, toNat_succ_of_lt h]
  exact UInt16.lt_iff_toNat_lt.mp h

/-- Some port with a property is the first one. -/
lemma exists_first {P : UInt16 → Prop} {port : UInt16} (h : P port) : ∃ p, P p ∧ ∀ q < p, ¬ P q := by
  induction hn : port.toNat using Nat.strongRecOn generalizing port with
  | _ n ih =>
    by_cases hmin : ∃ q < port, P q
    · obtain ⟨q, hq, hPq⟩ := hmin
      exact ih q.toNat (hn ▸ UInt16.lt_iff_toNat_lt.mp hq) hPq rfl
    · exact ⟨port, h, fun q hq hPq => hmin ⟨q, hq, hPq⟩⟩

/-- A round at a free port takes it. -/
lemma portRound_free (hlast : port ≤ last) (hfree : port ∉ used) :
    portRound used last port = .inr (some port) := by
  rw [portRound, if_pos hlast, if_pos hfree]

/-- A round at a used port goes on. -/
lemma portRound_used (hlast : port ≤ last) (hused : port ∈ used) :
    portRound used last port = .inl (port + 1) := by
  rw [portRound, if_pos hlast, if_neg (not_not_intro hused)]

/-- A round behind the last port ends the search. -/
lemma portRound_past (hlast : ¬ port ≤ last) : portRound used last port = .inr none := by
  rw [portRound, if_neg hlast]

/-- The first port of a range that is not in use is found. -/
lemma scan_free (hfirst : first ≤ port) (hlast : port ≤ last) (hfree : port ∉ used)
    (hused : ∀ p, first ≤ p → p < port → p ∈ used) :
    Loop.Returns (Loop.run (portRound used last) first) (some port) := by
  have hround : ∀ p, first ≤ p ∧ p ≤ port →
      (∃ p', portRound used last p = .inl p' ∧ (first ≤ p' ∧ p' ≤ port) ∧
        port.toNat - p'.toNat < port.toNat - p.toNat) ∨
      ∃ o, portRound used last p = .inr o ∧ o = some port := by
    rintro p ⟨hp, hle⟩
    by_cases heq : p = port
    · rw [heq]
      exact Or.inr ⟨_, portRound_free hlast hfree, rfl⟩
    · have hlt : p < port := UInt16.lt_of_le_of_ne hle heq
      have hsucc := toNat_succ_of_lt hlt
      refine Or.inl ⟨p + 1, portRound_used (UInt16.le_trans hle hlast) (hused p hp hlt),
        ⟨UInt16.le_iff_toNat_le.mpr ?_, succ_le_of_lt hlt⟩, ?_⟩
      · rw [hsucc]
        exact Nat.le_succ_of_le (UInt16.le_iff_toNat_le.mp hp)
      · rw [hsucc]
        have := UInt16.lt_iff_toNat_lt.mp hlt
        omega
  obtain ⟨o, ho, rfl⟩ := Loop.exists_returns _ hround ⟨UInt16.le_refl first, hfirst⟩
  exact ho

/-- A range that ends before the port 65535 is left if all of its ports are in use. -/
lemma scan_none (hlast : last ≠ illegalPort) (hused : ∀ p, first ≤ p → p ≤ last → p ∈ used) :
    Loop.Returns (Loop.run (portRound used last) first) none := by
  have hlt : last < illegalPort := UInt16.lt_of_le_of_ne (le_illegalPort last) hlast
  have hround : ∀ p, first ≤ p →
      (∃ p', portRound used last p = .inl p' ∧ first ≤ p' ∧
        last.toNat + 1 - p'.toNat < last.toNat + 1 - p.toNat) ∨
      ∃ o, portRound used last p = .inr o ∧ o = none := by
    intro p hp
    by_cases hle : p ≤ last
    · have hplt : p < illegalPort := UInt16.lt_of_le_of_lt hle hlt
      have hsucc := toNat_succ_of_lt hplt
      refine Or.inl ⟨p + 1, portRound_used hle (hused p hp hle), UInt16.le_iff_toNat_le.mpr ?_, ?_⟩
      · rw [hsucc]
        exact Nat.le_succ_of_le (UInt16.le_iff_toNat_le.mp hp)
      · rw [hsucc]
        have := UInt16.le_iff_toNat_le.mp hle
        omega
    · exact Or.inr ⟨none, portRound_past hle, rfl⟩
  obtain ⟨o, ho, rfl⟩ := Loop.exists_returns _ hround (UInt16.le_refl first)
  exact ho

/-- A range that ends with the port 65535 and whose ports are in use: the loop counts on with 0, and
finds the first port of all that is not in use. -/
lemma scan_wraps (hfree : port ∉ used) (hbelow : ∀ p < port, p ∈ used)
    (hused : ∀ p, first ≤ p → p ∈ used) :
    Loop.Returns (Loop.run (portRound used illegalPort) first) (some port) := by
  have hport : port < first := by
    by_contra h
    exact hfree (hused port (UInt16.not_lt.mp h))
  -- the ports from `first` on come before those from 0 on
  let distance (p : UInt16) : ℕ := if first ≤ p then 2 ^ 17 - p.toNat else port.toNat - p.toNat
  have hround : ∀ p, first ≤ p ∨ p ≤ port →
      (∃ p', portRound used illegalPort p = .inl p' ∧ (first ≤ p' ∨ p' ≤ port) ∧
        distance p' < distance p) ∨
      ∃ o, portRound used illegalPort p = .inr o ∧ o = some port := by
    intro p hp
    by_cases heq : p = port
    · rw [heq]
      exact Or.inr ⟨_, portRound_free (le_illegalPort port) hfree, rfl⟩
    · have hmem : p ∈ used := by
        rcases hp with hp | hp
        · exact hused p hp
        · exact hbelow p (UInt16.lt_of_le_of_ne hp heq)
      refine Or.inl ⟨p + 1, portRound_used (le_illegalPort p) hmem, ?_⟩
      simp only [distance, UInt16.le_iff_toNat_le, UInt16.lt_iff_toNat_lt, UInt16.toNat_add,
        UInt16.toNat_one, ← UInt16.toNat_inj] at hp heq hport ⊢
      have hp16 := p.toNat_lt
      have hf16 := first.toNat_lt
      split_ifs <;> omega
  obtain ⟨o, ho, rfl⟩ := Loop.exists_returns _ hround (Or.inl (UInt16.le_refl first))
  exact ho

/-- If all ports are in use, such a loop does not end. -/
lemma scan_diverges (hused : ∀ p, p ∈ used) {o : Option UInt16} :
    ¬ Loop.Returns (Loop.run (portRound used illegalPort) first) o :=
  Loop.not_returns (I := fun _ => True)
    (fun p _ => ⟨p + 1, portRound_used (le_illegalPort p) (hused p), trivial⟩) trivial

/-- What the loop returns at an entry at which the search ends is a port. -/
lemma EndsSearch.ne_none {remote : UInt16} {reliable : Bool} {used : Bool → Finset UInt16}
    {c : ConfiguredClient} (h : EndsSearch remote reliable used c) {o : Option UInt16}
    (ho : Loop.Returns (Loop.run (portRound (used reliable) (c.clientPorts reliable).2)
      (c.clientPorts reliable).1) o) : o ≠ none := by
  rcases h.2 with ⟨p, ⟨hfirst, hlast⟩, hfree⟩ | hlast
  · obtain ⟨q, ⟨⟨hqfirst, hqlast⟩, hqfree⟩, hmin⟩ := exists_first
      (P := fun p => isInPortRange p (c.clientPorts reliable) ∧ p ∉ used reliable)
      ⟨⟨hfirst, hlast⟩, hfree⟩
    have hq := scan_free hqfirst hqlast hqfree fun r hr hrq => by
      by_contra hrfree
      exact hmin r hrq ⟨⟨hr, UInt16.le_trans (UInt16.le_of_lt hrq) hqlast⟩, hrfree⟩
    rw [(Loop.stable_run _).unique ho hq]
    exact nofun
  · rw [hlast] at ho
    refine Loop.of_returns (I := fun _ => True) (Q := fun o => o ≠ none)
      (fun _ _ => trivial) (fun {p o} _ hround => ?_) trivial ho
    by_cases hused : p ∈ used reliable
    · rw [portRound_used (le_illegalPort p) hused] at hround
      exact absurd hround nofun
    · rw [portRound_free (le_illegalPort p) hused] at hround
      exact Sum.inr.inj hround ▸ nofun

end Scan

/-! ## The search through the entries -/

section Search

variable {clients : List ConfiguredClient} {service instance_ remote : UInt16} {reliable : Bool}
variable {used : Bool → Finset UInt16}

/-- The search at a client whose remote ports match. -/
lemma findPort_cons {c : ConfiguredClient} (hc : isInPortRange remote (c.remotePorts reliable))
    {isConfigured : Bool} {cs : List ConfiguredClient} :
    findPort remote reliable (used reliable) isConfigured (c :: cs) = fun fuel =>
      (Loop.run (portRound (used reliable) (c.clientPorts reliable).2)
        (c.clientPorts reliable).1 fuel).bind fun o => match o with
          | some port => some (true, port)
          | none => findPort remote reliable (used reliable) true cs fuel := by
  funext fuel
  rw [findPort, if_pos hc]

/-- The search skips a client whose remote ports do not match. -/
lemma findPort_cons_of_not {c : ConfiguredClient}
    (hc : ¬ isInPortRange remote (c.remotePorts reliable)) {isConfigured : Bool}
    {cs : List ConfiguredClient} :
    findPort remote reliable (used reliable) isConfigured (c :: cs) =
      findPort remote reliable (used reliable) isConfigured cs := by
  funext fuel
  rw [findPort, if_neg hc]

/-- More fuel does not change what `find_port` returns. -/
lemma stable_findPort (isConfigured : Bool) (cs : List ConfiguredClient) :
    Loop.Stable (findPort remote reliable (used reliable) isConfigured cs) := by
  induction cs generalizing isConfigured with
  | nil => exact Loop.stable_some _
  | cons c cs ih =>
    by_cases hc : isInPortRange remote (c.remotePorts reliable)
    · rw [findPort_cons hc]
      refine (Loop.stable_run _).bind (g := fun o fuel => match o with
        | some port => some (true, port)
        | none => findPort remote reliable (used reliable) true cs fuel) fun o => ?_
      cases o with
      | some port => exact Loop.stable_some _
      | none => exact ih true
    · rw [findPort_cons_of_not hc]
      exact ih isConfigured

/-- More fuel does not change what `get_client_port` returns. -/
lemma stable_getClientPort :
    Loop.Stable (getClientPort clients service instance_ remote reliable used) := by
  unfold getClientPort
  dsimp only
  split
  · exact Loop.stable_some _
  · intro m n r hmn h
    obtain ⟨found, hfound, hr⟩ := Option.map_eq_some_iff.mp h
    exact Option.map_eq_some_iff.mpr ⟨found, stable_findPort false clients hmn hfound, hr⟩

/-- What the search returns from an entry for the remote port on. -/
lemma returns_findPort_cons_iff {c : ConfiguredClient}
    (hc : isInPortRange remote (c.remotePorts reliable)) {isConfigured : Bool}
    {cs : List ConfiguredClient} {r : Bool × UInt16} :
    Loop.Returns (findPort remote reliable (used reliable) isConfigured (c :: cs)) r ↔
      ∃ o, Loop.Returns (Loop.run (portRound (used reliable) (c.clientPorts reliable).2)
          (c.clientPorts reliable).1) o ∧
        Loop.Returns (fun fuel => match o with
          | some port => some (true, port)
          | none => findPort remote reliable (used reliable) true cs fuel) r := by
  rw [findPort_cons hc]
  refine Loop.returns_bind_iff (g := fun o fuel => match o with
    | some port => some (true, port)
    | none => findPort remote reliable (used reliable) true cs fuel) (Loop.stable_run _) fun o => ?_
  cases o with
  | some port => exact Loop.stable_some _
  | none => exact stable_findPort true cs

/-- The search goes on behind an entry at which it does not end. -/
lemma returns_findPort_of_not_endsSearch {c : ConfiguredClient}
    (hc : ¬ EndsSearch remote reliable used c) {isConfigured : Bool} {cs : List ConfiguredClient}
    {r : Bool × UInt16} :
    Loop.Returns (findPort remote reliable (used reliable) isConfigured (c :: cs)) r ↔
      Loop.Returns (findPort remote reliable (used reliable)
        (isConfigured || isInPortRange remote (c.remotePorts reliable)) cs) r := by
  by_cases hremote : isInPortRange remote (c.remotePorts reliable)
  · have hnone : Loop.Returns (Loop.run (portRound (used reliable) (c.clientPorts reliable).2)
        (c.clientPorts reliable).1) none := by
      refine scan_none (fun hlast => hc ⟨hremote, Or.inr hlast⟩) fun p hp hle => ?_
      by_contra hfree
      exact hc ⟨hremote, Or.inl ⟨p, ⟨hp, hle⟩, hfree⟩⟩
    rw [returns_findPort_cons_iff hremote, decide_eq_true hremote, Bool.or_true]
    constructor
    · rintro ⟨o, ho, hr⟩
      rw [(Loop.stable_run _).unique ho hnone] at hr
      exact hr
    · exact fun hr => ⟨none, hnone, hr⟩
  · rw [findPort_cons_of_not hremote, decide_eq_false hremote, Bool.or_false]

/-- Without an entry at which it ends, the search finds no port. -/
lemma returns_findPort_of_forall (isConfigured : Bool)
    (h : ∀ c ∈ clients, ¬ EndsSearch remote reliable used c) :
    Loop.Returns (findPort remote reliable (used reliable) isConfigured clients)
      (isConfigured || clients.any fun c => isInPortRange remote (c.remotePorts reliable),
        illegalPort) := by
  induction clients generalizing isConfigured with
  | nil =>
    rw [List.any_nil, Bool.or_false]
    exact ⟨0, rfl⟩
  | cons c cs ih =>
    obtain ⟨hc, hcs⟩ := List.forall_mem_cons.mp h
    rw [returns_findPort_of_not_endsSearch hc, List.any_cons, ← Bool.or_assoc]
    exact ih _ hcs

/-- The search returns what the loop finds at the first entry at which it ends. -/
lemma returns_findPort_iff {before after : List ConfiguredClient} {c : ConfiguredClient}
    (hbefore : ∀ b ∈ before, ¬ EndsSearch remote reliable used b)
    (hc : EndsSearch remote reliable used c) (isConfigured : Bool) {r : Bool × UInt16} :
    Loop.Returns (findPort remote reliable (used reliable) isConfigured (before ++ c :: after)) r ↔
      ∃ port, Loop.Returns (Loop.run (portRound (used reliable) (c.clientPorts reliable).2)
        (c.clientPorts reliable).1) (some port) ∧ r = (true, port) := by
  induction before generalizing isConfigured with
  | nil =>
    rw [List.nil_append, returns_findPort_cons_iff hc.1]
    constructor
    · rintro ⟨o, ho, hr⟩
      obtain ⟨port, rfl⟩ := Option.ne_none_iff_exists'.mp (hc.ne_none ho)
      exact ⟨port, ho, Loop.returns_some_iff.mp hr⟩
    · rintro ⟨port, ho, hr⟩
      exact ⟨some port, ho, Loop.returns_some_iff.mpr hr⟩
  | cons b bs ih =>
    obtain ⟨hb, hbs⟩ := List.forall_mem_cons.mp hbefore
    rw [List.cons_append, returns_findPort_of_not_endsSearch hb]
    exact ih hbs _

/-- Some entry at which the search ends is the first one. -/
lemma exists_first_endsSearch (h : ∃ c ∈ clients, EndsSearch remote reliable used c) :
    ∃ before c after, clients = before ++ c :: after ∧ EndsSearch remote reliable used c ∧
      ∀ b ∈ before, ¬ EndsSearch remote reliable used b := by
  induction clients with
  | nil => exact absurd h nofun
  | cons d ds ih =>
    by_cases hd : EndsSearch remote reliable used d
    · exact ⟨[], d, ds, rfl, hd, nofun⟩
    · obtain ⟨c, hc, hends⟩ := h
      rcases List.mem_cons.mp hc with rfl | hc
      · exact absurd hends hd
      · obtain ⟨before, c, after, rfl, hends, hbefore⟩ := ih ⟨c, hc, hends⟩
        exact ⟨d :: before, c, after, rfl, hends, List.forall_mem_cons.mpr ⟨hd, hbefore⟩⟩

/-! ## The function -/

/-- A port of the service and instance is taken before any range is searched. -/
lemma returns_getClientPort_of_specific {port : UInt16}
    (h : (specificPorts clients service instance_ reliable).find?
      (fun port => port ∉ used reliable) = some port) {r : Bool × UInt16} :
    Loop.Returns (getClientPort clients service instance_ remote reliable used) r ↔
      r = (true, port) := by
  have hget : getClientPort clients service instance_ remote reliable used =
      fun _ => some (true, port) := by
    funext fuel
    simp only [getClientPort, h]
  rw [hget, Loop.returns_some_iff]

/-- If all ports of the service and instance are in use, the ranges decide. -/
lemma returns_getClientPort_of_findPort
    (h : ∀ p ∈ specificPorts clients service instance_ reliable, p ∈ used reliable)
    {found : Bool × UInt16}
    (hfound : Loop.Returns (findPort remote reliable (used reliable) false clients) found) :
    Loop.Returns (getClientPort clients service instance_ remote reliable used)
      (if found.1 ∧ found.2 ≠ illegalPort then (true, found.2)
      else if specificPorts clients service instance_ reliable = [] ∧ found.1 = false then
        (true, illegalPort)
      else (false, illegalPort)) := by
  have hnone : (specificPorts clients service instance_ reliable).find?
      (fun port => port ∉ used reliable) = none :=
    List.find?_eq_none.mpr fun p hp => by simpa using h p hp
  obtain ⟨fuel, hfuel⟩ := hfound
  refine ⟨fuel, ?_⟩
  simp only [getClientPort, hnone, hfuel, Option.map_some]

/-- Without a specific port that is free the ranges decide. -/
lemma returns_findPort_of_getClientPort
    (h : ∀ p ∈ specificPorts clients service instance_ reliable, p ∈ used reliable)
    {r : Bool × UInt16}
    (hr : Loop.Returns (getClientPort clients service instance_ remote reliable used) r) :
    ∃ found, Loop.Returns (findPort remote reliable (used reliable) false clients) found := by
  have hnone : (specificPorts clients service instance_ reliable).find?
      (fun port => port ∉ used reliable) = none :=
    List.find?_eq_none.mpr fun p hp => by simpa using h p hp
  obtain ⟨fuel, hfuel⟩ := hr
  simp only [getClientPort, hnone] at hfuel
  obtain ⟨found, hfound, -⟩ := Option.map_eq_some_iff.mp hfuel
  exact ⟨found, fuel, hfound⟩

/-- A call that chooses a port that may be used does all that it should. -/
lemma ChoosesPort.of_usable {port : UInt16}
    (hr : Loop.Returns (getClientPort clients service instance_ remote reliable used) (true, port))
    (hport : PortUsable clients service instance_ remote reliable used port) :
    ChoosesPort clients service instance_ remote reliable used where
  returns := ⟨_, hr⟩
  sound hr' _ := by
    obtain rfl := (Prod.mk.inj (stable_getClientPort.unique hr' hr)).2
    exact hport
  complete _ := ⟨port, hport, hr⟩
  dynamic hr' := absurd (Prod.mk.inj (stable_getClientPort.unique hr' hr)).2.symm hport.1
  exhausted hr' := absurd (Prod.mk.inj (stable_getClientPort.unique hr' hr)).1 nofun

/-- The first port of the service and instance that is not in use decides. -/
lemma choosesPort_iff_of_specific {port : UInt16}
    (h : (specificPorts clients service instance_ reliable).find?
      (fun port => port ∉ used reliable) = some port) :
    ChoosesPort clients service instance_ remote reliable used ↔ port ≠ illegalPort := by
  have hmem := List.mem_of_find?_eq_some h
  have hfree : port ∉ used reliable := by simpa using List.find?_some h
  have hr : Loop.Returns (getClientPort clients service instance_ remote reliable used) (true, port) :=
    (returns_getClientPort_of_specific h).mpr rfl
  constructor
  · rintro hchoose rfl
    exact hchoose.dynamic hr (Or.inl (List.ne_nil_of_mem hmem))
  · exact fun hport => ChoosesPort.of_usable hr ⟨hport, Or.inl hmem, hfree⟩

/-- The specific ports are sorted. -/
lemma specificPorts_sorted (clients : List ConfiguredClient) (service instance_ : UInt16)
    (reliable : Bool) : (specificPorts clients service instance_ reliable).Pairwise (· < ·) := by
  unfold specificPorts
  split
  · exact (PortSet.sorted _)
  · exact List.Pairwise.nil

/-- Ports in order: if one that is not in use is a real one, then so is the first. -/
lemma find?_ne_illegalPort {ports : List UInt16} (hsorted : ports.Pairwise (· < ·))
    {unused : Finset UInt16} {port p : UInt16}
    (h : ports.find? (fun port => port ∉ unused) = some port) (hp : p ∈ ports) (hfree : p ∉ unused)
    (hne : p ≠ illegalPort) : port ≠ illegalPort := by
  rintro rfl
  obtain ⟨-, before, after, rfl, hbefore⟩ := List.find?_eq_some_iff_append.mp h
  rcases List.mem_append.mp hp with hp | hp
  · have := hbefore p hp
    simp [hfree] at this
  · rcases List.mem_cons.mp hp with rfl | hp
    · exact hne rfl
    · have hlt := (List.pairwise_cons.mp (List.pairwise_append.mp hsorted).2.1).1 p hp
      exact absurd (le_illegalPort p) (UInt16.not_le.mpr hlt)

/-- Without an entry at which the search ends, all configured ports are in use. -/
lemma ChoosesPort.of_forall_not_endsSearch
    (hspecific : ∀ p ∈ specificPorts clients service instance_ reliable, p ∈ used reliable)
    (h : ∀ c ∈ clients, ¬ EndsSearch remote reliable used c) :
    ChoosesPort clients service instance_ remote reliable used := by
  have hused : ∀ p, PortConfigured clients service instance_ remote reliable p →
      p ∈ used reliable := by
    rintro p (hp | ⟨c, hc, hremote, hp⟩)
    · exact hspecific p hp
    · by_contra hfree
      exact h c hc ⟨hremote, Or.inl ⟨p, hp, hfree⟩⟩
  have hr := returns_getClientPort_of_findPort hspecific (returns_findPort_of_forall false h)
  rw [if_neg fun hfound => hfound.2 rfl, Bool.false_or] at hr
  by_cases hconfigured : ClientConfigured clients service instance_ remote reliable
  · rw [if_neg] at hr
    · exact {
        returns := ⟨_, hr⟩
        sound := fun hr' => absurd (Prod.mk.inj (stable_getClientPort.unique hr' hr)).1 nofun
        complete := fun ⟨p, hp⟩ => absurd (hused p hp.2.1) hp.2.2
        dynamic := fun hr' => absurd (Prod.mk.inj (stable_getClientPort.unique hr' hr)).1 nofun
        exhausted := fun _ => ⟨hconfigured, hused⟩ }
    · rintro ⟨hempty, hany⟩
      rcases hconfigured with hne | ⟨c, hc, hremote⟩
      · exact hne hempty
      · exact absurd (decide_eq_true hremote) (List.any_eq_false.mp hany c hc)
  · rw [if_pos] at hr
    · exact {
        returns := ⟨_, hr⟩
        sound := fun hr' hne => absurd (Prod.mk.inj (stable_getClientPort.unique hr' hr)).2 hne
        complete := fun ⟨p, hp⟩ => absurd (hused p hp.2.1) hp.2.2
        dynamic := fun _ => hconfigured
        exhausted := fun hr' => absurd (Prod.mk.inj (stable_getClientPort.unique hr' hr)).1 nofun }
    · refine ⟨not_not.mp fun hne => hconfigured (Or.inl hne), List.any_eq_false.mpr fun c hc => ?_⟩
      exact fun hremote => hconfigured (Or.inr ⟨c, hc, of_decide_eq_true hremote⟩)

/-- A port that the search finds is returned, but for the port 65535. -/
lemma returns_getClientPort_of_scan {before after : List ConfiguredClient} {c : ConfiguredClient}
    (hspecific : ∀ p ∈ specificPorts (before ++ c :: after) service instance_ reliable,
      p ∈ used reliable)
    (hbefore : ∀ b ∈ before, ¬ EndsSearch remote reliable used b)
    (hc : EndsSearch remote reliable used c) {port : UInt16}
    (hport : Loop.Returns (Loop.run (portRound (used reliable) (c.clientPorts reliable).2)
      (c.clientPorts reliable).1) (some port)) :
    Loop.Returns (getClientPort (before ++ c :: after) service instance_ remote reliable used)
      (decide (port ≠ illegalPort), port) := by
  have hr := returns_getClientPort_of_findPort hspecific
    ((returns_findPort_iff hbefore hc false).mpr ⟨port, hport, rfl⟩)
  by_cases hne : port = illegalPort
  · rw [if_neg fun h => h.2 hne, if_neg fun h => Bool.noConfusion h.2] at hr
    rw [decide_eq_false (not_not_intro hne), hne]
    exact hr
  · rw [if_pos ⟨rfl, hne⟩] at hr
    rw [decide_eq_true hne]
    exact hr

/-- The first entry at which the search ends has a real port that is not in use. -/
lemma ChoosesPort.of_free {before after : List ConfiguredClient} {c : ConfiguredClient}
    (hspecific : ∀ p ∈ specificPorts (before ++ c :: after) service instance_ reliable,
      p ∈ used reliable)
    (hbefore : ∀ b ∈ before, ¬ EndsSearch remote reliable used b)
    (hc : EndsSearch remote reliable used c) {port : UInt16}
    (hport : isInPortRange port (c.clientPorts reliable)) (hfree : port ∉ used reliable)
    (hne : port ≠ illegalPort) :
    ChoosesPort (before ++ c :: after) service instance_ remote reliable used := by
  obtain ⟨q, ⟨hq, hqfree⟩, hmin⟩ := exists_first
    (P := fun p => isInPortRange p (c.clientPorts reliable) ∧ p ∉ used reliable) ⟨hport, hfree⟩
  have hqne : q ≠ illegalPort := by
    rintro rfl
    exact hmin port (UInt16.lt_of_le_of_ne (le_illegalPort port) hne) ⟨hport, hfree⟩
  have hscan := scan_free hq.1 hq.2 hqfree fun r hr hrq => by
    by_contra hrfree
    exact hmin r hrq ⟨⟨hr, UInt16.le_trans (UInt16.le_of_lt hrq) hq.2⟩, hrfree⟩
  have hr := returns_getClientPort_of_scan hspecific hbefore hc hscan
  rw [decide_eq_true hqne] at hr
  exact ChoosesPort.of_usable hr
    ⟨hqne, Or.inr ⟨c, List.mem_append_right _ List.mem_cons_self, hc.1, hq⟩, hqfree⟩

/-- The first entry at which the search ends has no real port that is not in use: its range ends with
the port 65535, and the loop comes to that port. -/
lemma choosesPort_iff_of_used {before after : List ConfiguredClient} {c : ConfiguredClient}
    (hspecific : ∀ p ∈ specificPorts (before ++ c :: after) service instance_ reliable,
      p ∈ used reliable)
    (hbefore : ∀ b ∈ before, ¬ EndsSearch remote reliable used b)
    (hc : EndsSearch remote reliable used c)
    (hused : ∀ p, isInPortRange p (c.clientPorts reliable) → p ≠ illegalPort → p ∈ used reliable) :
    ChoosesPort (before ++ c :: after) service instance_ remote reliable used ↔
      illegalPort ∈ used reliable ∧ ∃ q, q ∉ used reliable ∧ (∀ p < q, p ∈ used reliable) ∧
        ∃ c' ∈ before ++ c :: after, isInPortRange remote (c'.remotePorts reliable) ∧
          isInPortRange q (c'.clientPorts reliable) := by
  have hmem : c ∈ before ++ c :: after := List.mem_append_right _ List.mem_cons_self
  have hlast : (c.clientPorts reliable).2 = illegalPort := by
    rcases hc.2 with ⟨p, hp, hfree⟩ | hlast
    · have hp' : p = illegalPort := by
        by_contra hne
        exact hfree (hused p hp hne)
      exact UInt16.le_antisymm (le_illegalPort _) (hp' ▸ hp.2)
    · exact hlast
  have hrange : ∀ p, (c.clientPorts reliable).1 ≤ p → isInPortRange p (c.clientPorts reliable) :=
    fun p hp => ⟨hp, hlast ▸ le_illegalPort p⟩
  by_cases hillegal : illegalPort ∈ used reliable
  · have hall : ∀ p, (c.clientPorts reliable).1 ≤ p → p ∈ used reliable := fun p hp => by
      by_cases hne : p = illegalPort
      · exact hne ▸ hillegal
      · exact hused p (hrange p hp) hne
    by_cases hfull : ∀ p, p ∈ used reliable
    · -- all ports are in use: the call does not come back
      constructor
      · intro hchoose
        obtain ⟨r, hr⟩ := hchoose.returns
        obtain ⟨found, hfound⟩ := returns_findPort_of_getClientPort hspecific hr
        obtain ⟨port, hport, -⟩ := (returns_findPort_iff hbefore hc false).mp hfound
        rw [hlast] at hport
        exact absurd hport (scan_diverges hfull)
      · rintro ⟨-, q, hq, -⟩
        exact absurd (hfull q) hq
    · -- the loop counts over 65535 to the first port that is not in use
      obtain ⟨p, hp⟩ := not_forall.mp hfull
      obtain ⟨q, hq, hbelow⟩ := exists_first (P := fun p => p ∉ used reliable) hp
      have hbelow : ∀ p < q, p ∈ used reliable := fun p hp => not_not.mp (hbelow p hp)
      have hqne : q ≠ illegalPort := fun h => hq (h ▸ hillegal)
      have hscan := scan_wraps hq hbelow hall
      rw [← hlast] at hscan
      have hr := returns_getClientPort_of_scan hspecific hbefore hc hscan
      rw [decide_eq_true hqne] at hr
      constructor
      · intro hchoose
        refine ⟨hillegal, q, hq, hbelow, ?_⟩
        rcases (hchoose.sound hr hqne).2.1 with hspec | hrange
        · exact absurd (hspecific q hspec) hq
        · exact hrange
      · rintro ⟨-, q', hq', hbelow', hconfigured⟩
        obtain rfl : q' = q := by
          refine UInt16.le_antisymm (UInt16.not_lt.mp fun h => hq (hbelow' q h))
            (UInt16.not_lt.mp fun h => hq' (hbelow q' h))
        exact ChoosesPort.of_usable hr ⟨hqne, Or.inr hconfigured, hq⟩
  · -- the port 65535 is found, and taken for none
    have hscan := scan_free (le_illegalPort (c.clientPorts reliable).1) (UInt16.le_refl _)
      hillegal fun p hp hlt => hused p (hrange p hp) (UInt16.ne_of_lt hlt)
    have hscan' : Loop.Returns (Loop.run (portRound (used reliable) (c.clientPorts reliable).2)
        (c.clientPorts reliable).1) (some illegalPort) := by
      rw [hlast]
      exact hscan
    have hr := returns_getClientPort_of_scan hspecific hbefore hc hscan'
    rw [decide_eq_false (not_not_intro rfl)] at hr
    constructor
    · intro hchoose
      exact absurd ((hchoose.exhausted hr).2 illegalPort
        (Or.inr ⟨c, hmem, hc.1, hrange _ (le_illegalPort _)⟩)) hillegal
    · exact fun h => absurd h.1 hillegal

/-- The first entry of a list with a property does not depend on how the list is split. -/
lemma first_unique {α : Type} {P : α → Prop} {before before' after after' : List α} {c c' : α}
    (h : before ++ c :: after = before' ++ c' :: after') (hc : P c) (hc' : P c')
    (hbefore : ∀ b ∈ before, ¬ P b) (hbefore' : ∀ b ∈ before', ¬ P b) : c = c' := by
  induction before generalizing before' with
  | nil =>
    cases before' with
    | nil => exact (List.cons.inj h).1
    | cons b bs => exact absurd ((List.cons.inj h).1 ▸ hc) (hbefore' b List.mem_cons_self)
  | cons b bs ih =>
    cases before' with
    | nil => exact absurd ((List.cons.inj h).1 ▸ hc') (hbefore b List.mem_cons_self)
    | cons b' bs' =>
      exact ih (List.cons.inj h).2 (fun x hx => hbefore x (List.mem_cons_of_mem b hx)) fun x hx =>
        hbefore' x (List.mem_cons_of_mem b' hx)

/-- Whether the search comes to the port 65535 is decided at the first entry at which it ends. -/
lemma avoidsIllegalPort_iff_of_ends {before after : List ConfiguredClient} {c : ConfiguredClient}
    (hspecific : ∀ p ∈ specificPorts (before ++ c :: after) service instance_ reliable,
      p ∈ used reliable)
    (hbefore : ∀ b ∈ before, ¬ EndsSearch remote reliable used b)
    (hc : EndsSearch remote reliable used c) :
    AvoidsIllegalPort (before ++ c :: after) service instance_ remote reliable used ↔
      (∃ p, isInPortRange p (c.clientPorts reliable) ∧ p ∉ used reliable ∧ p ≠ illegalPort) ∨
        illegalPort ∈ used reliable ∧ ∃ q, q ∉ used reliable ∧ (∀ p < q, p ∈ used reliable) ∧
          ∃ c' ∈ before ++ c :: after, isInPortRange remote (c'.remotePorts reliable) ∧
            isInPortRange q (c'.clientPorts reliable) := by
  constructor
  · exact fun havoids => havoids.generic hspecific rfl hc hbefore
  · refine fun h => ⟨fun ⟨p, hp, hfree⟩ => absurd (hspecific p hp) hfree, ?_⟩
    intro _ before' c' after' heq hc' hbefore'
    obtain rfl := first_unique heq hc hc' hbefore hbefore'
    exact h

end Search

/-- **The search comes to the port 65535.** A caller gets what it relies on exactly if the search for
a port does not come to the port 65535, which the code takes for none, and behind which a counter of
16 bits starts again with 0.

**Proof sketch.** A port of the service and instance is taken first, and 65535 is the last of them.
Otherwise the first entry decides at which the search through the ranges ends: it has a real port
that is not in use, or its range ends with 65535 and all ports before are in use. -/
theorem choosesPort_iff (clients : List ConfiguredClient) (service instance_ remote : UInt16)
    (reliable : Bool) (used : Bool → Finset UInt16) :
    ChoosesPort clients service instance_ remote reliable used ↔
      AvoidsIllegalPort clients service instance_ remote reliable used := by
  cases hfind : (specificPorts clients service instance_ reliable).find?
      (fun port => port ∉ used reliable) with
  | some port =>
    have hmem := List.mem_of_find?_eq_some hfind
    have hfree : port ∉ used reliable := by simpa using List.find?_some hfind
    rw [choosesPort_iff_of_specific hfind]
    constructor
    · exact fun hne =>
        ⟨fun _ => ⟨port, hmem, hfree, hne⟩, fun hall => absurd (hall port hmem) hfree⟩
    · intro havoids
      obtain ⟨p, hp, hpfree, hne⟩ := havoids.specific ⟨port, hmem, hfree⟩
      exact find?_ne_illegalPort (specificPorts_sorted _ _ _ _) hfind hp hpfree hne
  | none =>
    have hspecific : ∀ p ∈ specificPorts clients service instance_ reliable, p ∈ used reliable :=
      fun p hp => by simpa using List.find?_eq_none.mp hfind p hp
    by_cases hends : ∃ c ∈ clients, EndsSearch remote reliable used c
    · obtain ⟨before, c, after, rfl, hc, hbefore⟩ := exists_first_endsSearch hends
      rw [avoidsIllegalPort_iff_of_ends hspecific hbefore hc]
      by_cases hfree : ∃ p, isInPortRange p (c.clientPorts reliable) ∧ p ∉ used reliable ∧
          p ≠ illegalPort
      · obtain ⟨p, hp, hpfree, hne⟩ := hfree
        exact iff_of_true (ChoosesPort.of_free hspecific hbefore hc hp hpfree hne)
          (Or.inl ⟨p, hp, hpfree, hne⟩)
      · rw [or_iff_right hfree]
        refine choosesPort_iff_of_used hspecific hbefore hc fun p hp hne => ?_
        by_contra hpfree
        exact hfree ⟨p, hp, hpfree, hne⟩
    · have hnot : ∀ c ∈ clients, ¬ EndsSearch remote reliable used c :=
        fun c hc hends' => hends ⟨c, hc, hends'⟩
      refine iff_of_true (ChoosesPort.of_forall_not_endsSearch hspecific hnot)
        ⟨fun ⟨p, hp, hfree⟩ => absurd (hspecific p hp) hfree, ?_⟩
      rintro - before c after rfl hc -
      exact absurd hc (hnot c (List.mem_append_right _ List.mem_cons_self))

/-- A client without a range of its own for the remote port 30509, while a client whose port the
operating system has chosen is in use: the port 65535 stands for both. -/
def defaultRangeClient : ConfiguredClient where
  service := 0xFFFF
  instance_ := 0xFFFF
  ports _ := ⟨[], List.Pairwise.nil⟩
  remotePorts _ := (30509, 30509)
  clientPorts _ := (illegalPort, illegalPort)

/-- The call chooses port 0, which is configured nowhere. -/
theorem not_choosesPort : ¬ ∀ (clients : List ConfiguredClient) (service instance_ remote : UInt16)
    (reliable : Bool) (used : Bool → Finset UInt16),
    ChoosesPort clients service instance_ remote reliable used := by
  intro h
  have hchoose := h [defaultRangeClient] 0x1234 0x5678 30509 true fun _ => {illegalPort}
  have hr : Loop.Returns (getClientPort [defaultRangeClient] 0x1234 0x5678 30509 true
      fun _ => {illegalPort}) (true, 0) := ⟨2, by decide⟩
  rcases (hchoose.sound hr (by decide)).2.1 with hp | ⟨c, hc, -, hp⟩
  · exact absurd hp (by decide)
  · rw [List.mem_singleton.mp hc] at hp
    exact absurd hp (by decide)

end Vsomeip
