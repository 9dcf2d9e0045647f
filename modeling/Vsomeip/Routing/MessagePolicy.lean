import Vsomeip.Routing.MessageArrival

set_option relaxedAutoImplicit false
set_option autoImplicit false

/-!
# The policy on the way of a message

The stub asks the policy for every message of another application, and so does the proxy that receives
it: for a request, whether the client in its header may use the service, and for a response, whether the
receiver may. What the hosting application sends itself is asked for by the receiver only. No order of
commands and no change of the tables leads around these questions.

## Main definitions

* `Vsomeip.Content.Admitted` — the policy of a client admits a message.
* `Vsomeip.NetAction.Sends` — an application sends a message.

## Main results

* `Vsomeip.LocalNet.admitted_run` — what is delivered or passed on was admitted.
-/

namespace Vsomeip

open Relay

/-- The policy of a client admits a message. -/
def Content.Admitted (cfg : UInt16 → RouterConfig) (c : UInt16) (x : Content) : Prop :=
  (cfg c).admits c (x.data.getD 14 0) (bytesToWord (x.data.getD 8 0) (x.data.getD 9 0))
    (bytesToWord (x.data.getD 0 0) (x.data.getD 1 0)) x.instance_

/-- A client sends a message. -/
def NetAction.Sends {Address : Type} (client : UInt16) (x : Content) : NetAction Address → Prop
  | .send c m instance_ _ reliable => c = client ∧ x = ⟨m.data, instance_, reliable, true⟩
  | .arrive _ | .lose _ | .change .. => False

namespace LocalNet

variable {Address : Type} {cfg : UInt16 → RouterConfig} {n : LocalNet Address} {providers : Providers}
  {host : UInt16} {own : Content → Prop}

/-- What a proxy gives to its application was admitted. -/
lemma admitted_deliver {c instance_ : UInt16} {message : List UInt8} {reliable isValidCrc : Bool}
    {d : Delivery} (hd : d ∈ MessageProxy.deliver (cfg c) c message instance_ reliable isValidCrc) :
    d.content.Admitted cfg d.client := by
  rw [MessageProxy.deliver] at hd
  split at hd
  · rename_i m hm
    split_ifs at hd with hadmits
    · obtain rfl := List.mem_singleton.mp hd
      rw [LocalWorld.header_of_deserialize hm] at hadmits
      exact hadmits
    · exact absurd hd List.not_mem_nil
  · exact absurd hd List.not_mem_nil

/-- What a proxy sends has its client for the sender. -/
lemma sender_of_mem_send {p : MessageProxy} {self client instance_ : UInt16} {m : HeadedData}
    {flush reliable isValidCrc : Bool} (hm : Followed m) {t : Transit}
    (ht : t ∈ (p.send self client m instance_ flush reliable isValidCrc).2) : t.data.sender = self := by
  rw [MessageProxy.send, if_pos hm.isNoNotification] at ht
  by_cases hregistered : p.isRegistered
  · rw [if_neg (not_not.mpr hregistered)] at ht
    split at ht
    · exact List.mem_singleton.mp ht ▸ rfl
    · rw [MessageProxy.toHost] at ht
      split_ifs at ht
      · exact List.mem_singleton.mp ht ▸ rfl
      · exact absurd ht List.not_mem_nil
  · rw [if_pos hregistered] at ht
    exact absurd ht List.not_mem_nil

/-- What the hosting application gets is for it. -/
lemma client_of_mem_outcome {h : MessageRouter Address} {m : HeadedData} {copies : List Copy}
    {d : Delivery} (hd : d ∈ (h.outcome m copies).2) : d.client = h.client := by
  obtain ⟨copy, hcopy, hsome⟩ := List.mem_filterMap.mp hd
  cases copy with
  | host message i r v => exact (Option.some.inj hsome) ▸ rfl
  | sendLocal target d' => exact absurd hsome (by simp)

/-- What is made of a message has its content. -/
lemma content_of_makesOne {x : Content} {o : List Transit × List Delivery}
    (ho : MakesOne providers host x o) :
    (∀ t ∈ o.1, t.content = x) ∧ ∀ d ∈ o.2, d.content = x := by
  rcases ho with rfl | ⟨t, rfl, rfl, -⟩ | ⟨d, rfl, rfl, -⟩
  · exact ⟨fun t ht => absurd ht List.not_mem_nil, fun d hd => absurd hd List.not_mem_nil⟩
  · exact ⟨fun t' ht => List.mem_singleton.mp ht ▸ rfl, fun d hd => absurd hd List.not_mem_nil⟩
  · exact ⟨fun t ht => absurd ht List.not_mem_nil, fun d' hd => List.mem_singleton.mp hd ▸ rfl⟩

/-- A command on its way was admitted by the routing manager, if it comes from there and was not sent
by the hosting application itself. -/
def PassedOn (cfg : UInt16 → RouterConfig) (host : UInt16) (own : Content → Prop) (t : Transit) :
    Prop :=
  t.data.sender = host → t.content.Admitted cfg host ∨ own t.content

/-- What was delivered was admitted by the receiver, or was sent by the hosting application to
itself. -/
def Received (cfg : UInt16 → RouterConfig) (host : UInt16) (own : Content → Prop) (d : Delivery) :
    Prop :=
  d.content.Admitted cfg d.client ∨ d.client = host ∧ own d.content

/-- What is made of a command that arrives was admitted. -/
lemma admitted_made (hn : n.Within providers host) {t : Transit} (ht : t.Sound providers host) :
    (∀ t' ∈ (made cfg n t).1, PassedOn cfg host own t') ∧
      ∀ d ∈ (made cfg n t).2, Received cfg host own d := by
  obtain ⟨hsent, hkept⟩ := content_of_makesOne (@makesOne_made _ cfg _ _ _ hn _ ht)
  obtain ⟨rfl, -, -, -⟩ := hn
  by_cases htarget : t.target = routingClient ∨ t.target = n.host.client
  · by_cases hadmits : t.content.Admitted cfg n.host.client
    · refine ⟨fun t' ht' _ => .inl ?_, fun d hd => .inl ?_⟩
      · rw [hsent t' ht']
        exact hadmits
      · have hclient : d.client = n.host.client := by
          rw [made, if_pos htarget] at hd
          split_ifs at hd
          · exact client_of_mem_outcome hd
          · exact absurd hd List.not_mem_nil
        rw [hkept d hd, hclient]
        exact hadmits
    · have hnone : made cfg n t = ([], []) := by
        rw [made, if_pos htarget]
        exact if_neg hadmits
      rw [hnone]
      exact ⟨fun t' ht' => absurd ht' List.not_mem_nil, fun d hd => absurd hd List.not_mem_nil⟩
  · rw [made, if_neg htarget]
    cases happ : n.apps t.target with
    | none =>
      exact ⟨fun t' ht' => absurd ht' List.not_mem_nil, fun d hd => absurd hd List.not_mem_nil⟩
    | some p =>
      exact ⟨fun t' ht' => absurd ht' List.not_mem_nil, fun d hd => .inl (admitted_deliver hd)⟩

variable {m : HeadedData} {client instance_ : UInt16} {flush reliable : Bool}

/-- What is made of a message that an application sends comes from this application. -/
lemma admitted_sentBy (hn : n.Within providers host) (hm : Followed m)
    (hown : client = host → own ⟨m.data, instance_, reliable, true⟩) :
    (∀ t ∈ (sentBy cfg n client m instance_ flush reliable).1, PassedOn cfg host own t) ∧
      ∀ d ∈ (sentBy cfg n client m instance_ flush reliable).2, Received cfg host own d := by
  obtain ⟨hsent, hkept⟩ := content_of_makesOne
    (@makesOne_sentBy _ cfg _ _ _ m client instance_ flush reliable hn hm)
  obtain ⟨rfl, -, -, -⟩ := hn
  by_cases hhost : client = n.host.client
  · refine ⟨fun t ht _ => .inr (hsent t ht ▸ hown hhost),
      fun d hd => .inr ⟨?_, hkept d hd ▸ hown hhost⟩⟩
    rw [sentBy, if_pos hhost] at hd
    exact client_of_mem_outcome hd
  · rw [sentBy, if_neg hhost] at hsent hkept ⊢
    cases happ : n.apps client with
    | none => exact ⟨fun t ht => absurd ht List.not_mem_nil, fun d hd => absurd hd List.not_mem_nil⟩
    | some p =>
      refine ⟨fun t ht hsender => absurd ?_ hhost, fun d hd => absurd hd List.not_mem_nil⟩
      exact (sender_of_mem_send hm ht).symm.trans hsender

/-- The invariant of the network: everything is on a way of its own, and was admitted on it. -/
structure Guarded (cfg : UInt16 → RouterConfig) (own : Content → Prop) (n : LocalNet Address)
    (providers : Providers) (client : UInt16) : Prop extends n.Safe providers client where
  admitted : n.pool.All (PassedOn cfg client own) (Received cfg client own)

/-- Every step keeps the invariant. -/
lemma Guarded.step (hn : Guarded cfg own n providers host) {a : NetAction Address}
    (ha : a.Keeps providers) (hown : ∀ x, a.Sends host x → own x) :
    Guarded cfg own (step cfg n a) providers host := by
  refine ⟨hn.toSafe.step ha, ?_⟩
  have hwithin := hn.toWithin
  cases a with
  | send client m instance_ flush reliable =>
    obtain ⟨apps, hsend, -⟩ := @send_eq _ cfg n m client instance_ flush reliable ha
    rw [LocalNet.step, hsend]
    exact hn.admitted.add (admitted_sentBy hwithin ha fun hhost => hown _ ⟨hhost, rfl⟩)
  | arrive i =>
    rw [LocalNet.step]
    cases hi : n.pool.onWay[i]? with
    | none => exact hn.admitted
    | some t =>
      have ht : t.Sound providers host := hn.sound.1 t (List.mem_of_getElem? hi)
      have hdropped : Within { n with pool := n.pool.drop i } providers host :=
        ⟨hwithin.client_eq, hwithin.client_ne, hwithin.host, hwithin.apps⟩
      dsimp only
      rw [arrive_eq ht]
      exact (hn.admitted.drop i).add (admitted_made hdropped ht)
  | lose i => exact hn.admitted.drop i
  | change host' apps => exact hn.admitted

/-- **There is no way around the policy**: in every run, in which commands arrive in any order or are
lost and the tables change at any time, each message that an application has got was admitted by its own
policy, or it is one that the hosting application has sent to itself; and each message that the routing
manager has sent to another application was admitted by its policy, or the hosting application has sent
it.

**Proof sketch.** The stub and the proxies ask the policy when a command arrives. What they ask for is
in the bytes of the message, which nobody changes. -/
theorem admitted_run (cfg : UInt16 → RouterConfig) (host : MessageRouter Address)
    (apps : UInt16 → Option MessageProxy) (providers : Providers) (hhost : host.client ≠ routingClient)
    (hwithin : host.Within providers) (happs : ∀ c p, apps c = some p → p.Within providers)
    (as : List (NetAction Address)) (has : ∀ a ∈ as, a.Keeps providers) :
    let n := Runs.run (step cfg) (start host apps) as
    (∀ d ∈ n.pool.arrived, d.content.Admitted cfg d.client ∨
      d.client = host.client ∧ ∃ a ∈ as, a.Sends host.client d.content) ∧
    ∀ t ∈ n.pool.onWay, t.data.sender = host.client →
      t.content.Admitted cfg host.client ∨ ∃ a ∈ as, a.Sends host.client t.content := by
  let own : Content → Prop := fun x => ∃ a ∈ as, a.Sends host.client x
  have hstart : Guarded cfg own (start host apps) providers host.client :=
    ⟨⟨⟨rfl, hhost, hwithin, happs⟩, Pool.all_empty, le_rfl⟩, Pool.all_empty⟩
  have hrun : Guarded cfg own (Runs.run (step cfg) (start host apps) as) providers host.client :=
    @Runs.inv_run _ _ (step cfg) (fun n => Guarded cfg own n providers host.client) (· ∈ as)
      (fun hn ha => hn.step (has _ ha) fun x hx => ⟨_, ha, hx⟩) _ _ hstart fun _ ha => ha
  exact ⟨hrun.admitted.2, hrun.admitted.1⟩

/-- A policy that denies the service to the client 0x101. -/
def strictConfig : RouterConfig :=
  { exampleConfig with isClientAllowed := fun c _ => c ≠ 0x101 }

/-- A request of the client 0x101 reaches the routing manager and goes no further, and a response to it
is not delivered either. -/
theorem admitted_run_strict :
    let n := Runs.run (step fun _ => strictConfig) (start exampleHost exampleApps) exampleRun
    n.pool.arrived = [] ∧ ∀ t ∈ n.pool.onWay, t.data.sender = 0x100 →
      t.content.Admitted (fun _ => strictConfig) 0x100 ∨
        ∃ a ∈ exampleRun, a.Sends 0x100 t.content :=
  ⟨by decide, (admitted_run (fun _ => strictConfig) exampleHost exampleApps exampleProviders
    (by decide) exampleHost_within exampleApps_within exampleRun exampleRun_keeps).2⟩

end LocalNet

end Vsomeip
