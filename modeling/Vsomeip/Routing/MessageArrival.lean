import Mathlib.Algebra.BigOperators.Group.List.Basic
import Vsomeip.Routing.MessageForwarding

set_option relaxedAutoImplicit false
set_option autoImplicit false

/-!
# The arrival of requests and responses

If the tables of the proxies agree with those of the routing manager, which knows all applications, then
no request and no response is lost on its way: each of them is delivered once to the application that it
is for, directly or by way of the routing manager. The proxies may know as little as they like, and may
learn and forget at any time.

## Main definitions

* `Vsomeip.LocalWorld` — the applications, and which of them offers a service instance.
* `Vsomeip.LocalWorld.Agrees` — the tables agree with it.
* `Vsomeip.LocalWorld.Deliverable` — a message is for one of the applications, which is allowed to get
  it and can read it.

## Main results

* `Vsomeip.LocalWorld.arrives_run` — all messages are delivered.
-/

namespace Vsomeip

open Relay

/-- The applications: the one that hosts the routing manager and the others, and the clients that offer
the service instances. -/
structure LocalWorld where
  host : UInt16
  IsClient : UInt16 → Prop
  provider : InstanceKey → Option UInt16
  host_ne : host ≠ routingClient
  not_isClient_host : ¬ IsClient host
  not_isClient_routing : ¬ IsClient routingClient
  isClient_provider : ∀ {k c}, provider k = some c → c = host ∨ IsClient c

namespace LocalWorld

variable {Address : Type} (w : LocalWorld)

/-- The offers that the tables may tell of. A proxy also has services of other hosts, for which it asks
the routing manager. -/
def Offered (k : InstanceKey) (c : UInt16) : Prop := c ≠ routingClient → w.provider k = some c

/-- The client that a message is for. -/
def destination (x : Content) : UInt16 :=
  if isRequest (x.data.getD 14 0) then
    (w.provider (bytesToWord (x.data.getD 0 0) (x.data.getD 1 0), x.instance_)).getD routingClient
  else bytesToWord (x.data.getD 8 0) (x.data.getD 9 0)

/-- The proxy is connected to the routing manager, and what it knows is true. -/
structure AgreesProxy (p : MessageProxy) : Prop where
  isRegistered : p.isRegistered
  hasSender : p.hasSender
  within : p.Within w.Offered

/-- The routing manager knows all applications and their services, and the proxies know some of them. -/
structure Agrees (h : MessageRouter Address) (apps : UInt16 → Option MessageProxy) : Prop where
  localServices : h.localServices = w.provider
  localEndpoints : ∀ c, h.localEndpoints c ↔ w.IsClient c
  registered : ∀ c, w.IsClient c → ∃ p, apps c = some p
  proxies : ∀ c p, apps c = some p → w.AgreesProxy p

/-- A message is for an application. The policies of the routing manager and of the application admit
it, and the application can read it. -/
structure Deliverable (cfg : UInt16 → RouterConfig) (x : Content) : Prop where
  destination : w.destination x = w.host ∨ w.IsClient (w.destination x)
  admitted : ∀ c, c = w.host ∨ c = w.destination x →
    (cfg c).admits c (x.data.getD 14 0) (bytesToWord (x.data.getD 8 0) (x.data.getD 9 0))
      (bytesToWord (x.data.getD 0 0) (x.data.getD 1 0)) x.instance_
  readable : ∃ message, (MessageImpl.deserialize (cfg (w.destination x)).maxSize
    (.setData x.data (cfg (w.destination x)).stray)).1 = .message message

variable {w} {cfg : UInt16 → RouterConfig}

/-! ## One node -/

/-- What is for a client by these offers is for its destination. -/
lemma eq_destination {x : Content} {c : UInt16} (hc : c ≠ routingClient) (h : x.IsFor w.Offered c) :
    c = w.destination x := by
  rw [Content.IsFor] at h
  rw [destination]
  split_ifs at h ⊢ with hrequest
  · rw [h hc]
    rfl
  · exact h

/-- The header of a message that is read is that in its bytes. -/
lemma header_of_deserialize {maxSize : ℕ} {data : List UInt8} {stray : ℕ → UInt8}
    {message : MessageImpl}
    (h : (MessageImpl.deserialize maxSize (.setData data stray)).1 = .message message) :
    message.header = MessageImpl.headerOf data := by
  rw [MessageImpl.deserialize_setData maxSize stray rfl] at h
  split_ifs at h
  exact (Deserialized.message.inj h) ▸ rfl

/-- Something is made of a message. -/
lemma contentsOf_eq {providers : Providers} {host : UInt16} {x : Content}
    {o : List Transit × List Delivery} (h : MakesOne providers host x o) (hne : o ≠ ([], [])) :
    contentsOf o = {x} := by
  rcases h with rfl | ⟨t, rfl, rfl, -⟩ | ⟨d, rfl, rfl, -⟩
  · exact absurd rfl hne
  · rfl
  · rfl

/-- An application gets a message that it can read and that it is admitted to get. -/
lemma deliver_ne_nil {x : Content} (hx : w.Deliverable cfg x) :
    MessageProxy.deliver (cfg (w.destination x)) (w.destination x) x.data x.instance_ x.reliable
      x.isValidCrc ≠ [] := by
  obtain ⟨message, hmessage⟩ := hx.readable
  have hadmits := hx.admitted _ (.inr rfl)
  have hheader := header_of_deserialize hmessage
  rw [MessageProxy.deliver, hmessage]
  dsimp only
  rw [hheader]
  exact ne_of_eq_of_ne (if_pos hadmits) (List.cons_ne_nil _ _)

section Host

variable {h : MessageRouter Address} {apps : UInt16 → Option MessageProxy} {m : HeadedData}
  {instance_ : UInt16} {reliable isValidCrc : Bool}

/-- Some copies make up an outcome. -/
lemma outcome_ne {copies : List Copy} (hne : copies ≠ []) : h.outcome m copies ≠ ([], []) := by
  intro houtcome
  obtain ⟨hsent, hkept⟩ := Prod.mk.inj houtcome
  cases copies with
  | nil => exact hne rfl
  | cons copy copies =>
    cases copy with
    | host message i r v => exact absurd hkept (by simp)
    | sendLocal target d => exact absurd hsent (by simp)

/-- The routing manager knows where a message goes. -/
lemma Agrees.destination_eq (hw : w.Agrees h apps) (m : HeadedData) (instance_ : UInt16)
    (reliable isValidCrc : Bool) : h.destination m.toReceivedData instance_ =
      w.destination ⟨m.data, instance_, reliable, isValidCrc⟩ := by
  rw [MessageRouter.destination, MessageRouter.findLocalClient, hw.localServices]
  rfl

/-- The hosting application gets the message that is for it. -/
lemma deliverMessage_ne (hx : w.Deliverable cfg ⟨m.data, instance_, reliable, isValidCrc⟩)
    (hdestination : w.destination ⟨m.data, instance_, reliable, isValidCrc⟩ = w.host) :
    MessageRouter.deliverMessage (cfg w.host) m instance_ reliable isValidCrc ≠ [] := by
  obtain ⟨message, hmessage⟩ := hx.readable
  rw [hdestination] at hmessage
  dsimp only at hmessage
  rw [MessageRouter.deliverMessage, hmessage]
  exact List.cons_ne_nil _ _

/-- Another application gets it in a command. -/
lemma sendLocal_ne (hw : w.Agrees h apps) {c : UInt16} (hc : w.IsClient c) (client : UInt16)
    (flush : Bool) : h.sendLocal c client m instance_ flush reliable isValidCrc ≠ [] := by
  rw [MessageRouter.sendLocal, if_pos ((hw.localEndpoints c).mpr hc)]
  exact List.cons_ne_nil _ _

/-- The routing manager makes something of a message that it is given by the hosting application. -/
lemma send_host_ne (hw : w.Agrees h apps) (hclient : h.client = w.host)
    (hx : w.Deliverable cfg ⟨m.data, instance_, reliable, isValidCrc⟩)
    (hnotify : ¬ isNotification m.type) (client : UInt16) (flush : Bool) :
    h.send (cfg w.host) client m instance_ flush reliable isValidCrc ≠ [] := by
  have hdestination := hw.destination_eq m instance_ reliable isValidCrc
  rw [MessageRouter.send_eq hnotify]
  rcases hx.destination with hhost | hother
  · have hendpoint : ¬ h.localEndpoints (h.destination m.toReceivedData instance_) := by
      rw [hw.localEndpoints, hdestination, hhost]
      exact w.not_isClient_host
    rw [if_neg hendpoint, if_pos (by rw [hdestination, hhost, hclient])]
    exact deliverMessage_ne hx hhost
  · rw [if_pos (by rw [hw.localEndpoints, hdestination]; exact hother)]
    exact sendLocal_ne hw (hdestination ▸ hother) _ _

/-- So does it of a message that it has received. -/
lemma onServiceMessage_ne (hw : w.Agrees h apps) (hclient : h.client = w.host)
    (hx : w.Deliverable cfg ⟨m.data, instance_, reliable, isValidCrc⟩)
    (hnotify : ¬ isNotification m.type) :
    (h.onServiceMessage (cfg w.host) (m.service, instance_) m reliable isValidCrc).2 ≠ [] := by
  have hdestination := hw.destination_eq m instance_ reliable isValidCrc
  rw [MessageRouter.onServiceMessage_eq hnotify]
  dsimp only
  rcases hx.destination with hhost | hother
  · rw [if_pos (by rw [hdestination, hhost, hclient])]
    exact deliverMessage_ne hx hhost
  · have hne : h.destination m.toReceivedData instance_ ≠ h.client := by
      rw [hdestination, hclient]
      exact fun heq => w.not_isClient_host (heq ▸ hother)
    rw [if_neg hne, if_pos (by rw [hw.localEndpoints, hdestination]; exact hother)]
    exact sendLocal_ne hw (hdestination ▸ hother) _ _

end Host

/-! ## The network -/

variable {n : LocalNet Address}

/-- A command that arrives becomes something else. -/
lemma made_ne (hw : w.Agrees n.host n.apps) (hclient : n.host.client = w.host) {t : Transit}
    (ht : t.Sound w.Offered w.host) (hx : w.Deliverable cfg t.content) :
    LocalNet.made cfg n t ≠ ([], []) := by
  have hne := @onServiceMessage_ne _ w cfg n.host n.apps t.data.headedData t.data.instance_
    t.data.reliable t.data.isValidCrc hw hclient hx ht.isNoNotification
  rw [LocalNet.made, hclient]
  by_cases htarget : t.target = routingClient ∨ t.target = w.host
  · rw [if_pos htarget]
    exact ne_of_eq_of_ne (if_pos (hx.admitted _ (.inl rfl))) (outcome_ne hne)
  · rw [if_neg htarget]
    obtain ⟨hrouting, hhost⟩ := not_or.mp htarget
    have hfor : t.content.IsFor w.Offered t.target := by
      have htarget' := ht.target
      tauto
    have hdestination : t.target = w.destination t.content := eq_destination hrouting hfor
    have hother : w.IsClient t.target := by
      rcases hx.destination with hx | hx
      · exact absurd (hdestination.trans hx) hhost
      · exact hdestination ▸ hx
    obtain ⟨p, happ⟩ := hw.registered _ hother
    rw [happ]
    intro hnone
    have hdeliver := deliver_ne_nil hx
    rw [← hdestination] at hdeliver
    exact hdeliver (Prod.mk.inj hnone).2

/-- A message that is sent becomes something. -/
lemma sentBy_ne (hw : w.Agrees n.host n.apps) (hclient : n.host.client = w.host) {m : HeadedData}
    (hm : Followed m) {client instance_ : UInt16} {flush reliable : Bool}
    (hsender : client = w.host ∨ w.IsClient client)
    (hx : w.Deliverable cfg ⟨m.data, instance_, reliable, true⟩) :
    LocalNet.sentBy cfg n client m instance_ flush reliable ≠ ([], []) := by
  rw [LocalNet.sentBy, hclient]
  split_ifs with hhost
  · subst hhost
    exact outcome_ne (send_host_ne hw hclient hx hm.isNoNotification _ _)
  · obtain ⟨p, happ⟩ := hw.registered client (hsender.resolve_left hhost)
    rw [happ]
    dsimp only
    have hp := hw.proxies client p happ
    rw [MessageProxy.send, if_neg (not_not.mpr hp.isRegistered), if_pos hm.isNoNotification]
    intro hnone
    have hnil := (Prod.mk.inj hnone).1
    split at hnil
    · exact List.cons_ne_nil _ _ hnil
    · rw [MessageProxy.toHost, if_pos hp.hasSender] at hnil
      exact List.cons_ne_nil _ _ hnil

/-! ## Runs -/

/-- What may happen: an application sends a message that can be delivered, a command arrives, and the
tables change. No command is lost. -/
def Allows (w : LocalWorld) (cfg : UInt16 → RouterConfig) : NetAction Address → Prop
  | .send client m instance_ _ reliable =>
    Followed m ∧ (client = w.host ∨ w.IsClient client) ∧
      w.Deliverable cfg ⟨m.data, instance_, reliable, true⟩
  | .arrive _ => True
  | .lose _ => False
  | .change host apps => w.Agrees host apps

/-- The tables tell of the offers only. -/
lemma Agrees.within (hw : w.Agrees n.host n.apps) (hclient : n.host.client = w.host) :
    n.Within w.Offered w.host where
  client_eq := hclient
  client_ne := w.host_ne
  host := fun k c hservice _ => by rwa [hw.localServices] at hservice
  apps := fun c p happ => (hw.proxies c p happ).within

/-- Proxies with the same tables agree as well. -/
lemma Agrees.of_sameTables (hw : w.Agrees n.host n.apps) {apps : UInt16 → Option MessageProxy}
    (hsame : ∀ c, Option.Rel MessageProxy.SameTables (n.apps c) (apps c)) : w.Agrees n.host apps where
  localServices := hw.localServices
  localEndpoints := hw.localEndpoints
  registered := fun c hc => by
    obtain ⟨p, happ⟩ := hw.registered c hc
    have hrel := hsame c
    rw [happ] at hrel
    generalize apps c = app at hrel
    cases hrel
    exact ⟨_, rfl⟩
  proxies := fun c p' happ' => by
    have hrel := hsame c
    rw [happ'] at hrel
    cases happ : n.apps c with
    | none => rw [happ] at hrel; cases hrel
    | some p =>
      rw [happ] at hrel
      cases hrel with
      | some htables =>
        have hp := hw.proxies c p happ
        refine ⟨htables.isRegistered ▸ hp.isRegistered, htables.hasSender ▸ hp.hasSender, ?_⟩
        intro k c' hservice
        rw [htables.localServices] at hservice
        exact hp.within k c' hservice

/-- The invariant of the network: everything that was sent is there. -/
structure Complete (w : LocalWorld) (cfg : UInt16 → RouterConfig) (n : LocalNet Address) : Prop where
  client_eq : n.host.client = w.host
  agrees : w.Agrees n.host n.apps
  sound : n.pool.All (·.Sound w.Offered w.host) (·.Sound w.Offered)
  contents : n.pool.contents Transit.content Delivery.content = ↑n.sent
  deliverable : ∀ x ∈ n.sent, w.Deliverable cfg x

/-- A command on its way can be delivered. -/
lemma Complete.deliverable_content (hn : Complete w cfg n) {t : Transit} (ht : t ∈ n.pool.onWay) :
    w.Deliverable cfg t.content := by
  refine hn.deliverable _ (Multiset.mem_coe.mp ?_)
  rw [← hn.contents]
  exact Multiset.mem_add.mpr (.inl (Multiset.mem_coe.mpr (List.mem_map_of_mem ht)))

/-- Every step keeps the invariant. -/
lemma Complete.step (hn : Complete w cfg n) {a : NetAction Address} (ha : w.Allows cfg a) :
    Complete w cfg (LocalNet.step cfg n a) := by
  have hwithin := hn.agrees.within hn.client_eq
  cases a with
  | send client m instance_ flush reliable =>
    obtain ⟨hm, hsender, hx⟩ := ha
    obtain ⟨apps, hsend, hsame⟩ := @LocalNet.send_eq _ cfg n m client instance_ flush reliable hm
    have hone := @LocalNet.makesOne_sentBy _ cfg _ _ _ m client instance_ flush reliable hwithin hm
    have hne := @sentBy_ne _ w cfg n hn.agrees hn.client_eq m hm client instance_ flush reliable hsender
      hx
    rw [LocalNet.step, hsend]
    refine ⟨hn.client_eq, hn.agrees.of_sameTables hsame, hn.sound.add hone.all, ?_,
      List.forall_mem_append.mpr ⟨hn.deliverable, List.forall_mem_singleton.mpr hx⟩⟩
    dsimp only
    rw [Pool.contents_add, hn.contents, ← Multiset.coe_add]
    exact congrArg _ (contentsOf_eq hone hne)
  | arrive i =>
    rw [LocalNet.step]
    cases hi : n.pool.onWay[i]? with
    | none => exact hn
    | some t =>
      have hmem := List.mem_of_getElem? hi
      have ht : t.Sound w.Offered w.host := hn.sound.1 t hmem
      have hone := @LocalNet.makesOne_made _ cfg { n with pool := n.pool.drop i } _ _
        ⟨hwithin.client_eq, hwithin.client_ne, hwithin.host, hwithin.apps⟩ _ ht
      have hne := @made_ne _ w cfg { n with pool := n.pool.drop i } hn.agrees hn.client_eq t ht
        (hn.deliverable_content hmem)
      dsimp only
      rw [LocalNet.arrive_eq ht]
      exact ⟨hn.client_eq, hn.agrees, (hn.sound.drop i).add hone.all,
        (Pool.contents_relay hi (contentsOf_eq hone hne)).trans hn.contents, hn.deliverable⟩
  | lose i => exact ha.elim
  | change host' apps =>
    exact ⟨hn.client_eq, ⟨ha.localServices, ha.localEndpoints, ha.registered, ha.proxies⟩, hn.sound,
      hn.contents, hn.deliverable⟩

/-! ### All commands arrive -/

/-- How far a command still has to go: the routing manager may pass it on once. -/
def distance (w : LocalWorld) (t : Transit) : ℕ :=
  if t.target = routingClient ∨ t.target = w.host then 2 else 1

/-- How far all commands still have to go. -/
def distances (w : LocalWorld) (ts : List Transit) : ℕ := (ts.map w.distance).sum

/-- A message for the hosting application is not passed on. -/
lemma outcome_deliverMessage {h : MessageRouter Address} {m : HeadedData} {instance_ : UInt16}
    {reliable isValidCrc : Bool} : (h.outcome m (MessageRouter.deliverMessage (cfg w.host) m instance_
      reliable isValidCrc)).1 = [] := by
  rw [MessageRouter.deliverMessage]
  split <;> rfl

/-- A command that arrives brings its message closer. -/
lemma distances_made (hw : w.Agrees n.host n.apps) (hclient : n.host.client = w.host) {t : Transit}
    (ht : t.Sound w.Offered w.host) : w.distances (LocalNet.made cfg n t).1 < w.distance t := by
  rw [LocalNet.made, distance, hclient]
  by_cases htarget : t.target = routingClient ∨ t.target = w.host
  · rw [if_pos htarget, if_pos htarget]
    split_ifs
    · change w.distances (n.host.outcome _ (n.host.onServiceMessage _
        (t.data.headedData.service, _) _ _ _).2).1 < 2
      have hm : ¬ isNotification t.data.headedData.type := ht.isNoNotification
      rw [MessageRouter.onServiceMessage_eq hm]
      dsimp only
      split_ifs with hdestination hendpoint
      · rw [outcome_deliverMessage]
        exact Nat.two_pos
      · have hother := (hw.localEndpoints _).mp hendpoint
        have hfar : ¬ (n.host.destination t.data.headedData.toReceivedData t.data.instance_ =
            routingClient ∨ n.host.destination t.data.headedData.toReceivedData t.data.instance_ =
              w.host) := by
          rintro (heq | heq)
          · exact w.not_isClient_routing (heq ▸ hother)
          · exact w.not_isClient_host (heq ▸ hother)
        rw [MessageRouter.sendLocal, if_pos hendpoint]
        change w.distance _ + 0 < 2
        rw [distance, if_neg hfar]
        exact Nat.one_lt_two
      · exact Nat.two_pos
    · exact Nat.two_pos
  · rw [if_neg htarget, if_neg htarget]
    split <;> exact Nat.one_pos

/-- So the commands are less far from where they go, all together. -/
lemma Complete.distances_step (hn : Complete w cfg n) (hne : n.pool.onWay ≠ []) :
    w.distances (LocalNet.step cfg n (.arrive 0)).pool.onWay < w.distances n.pool.onWay := by
  obtain ⟨t, ts, hts⟩ := List.exists_cons_of_ne_nil hne
  have ht : t.Sound w.Offered w.host := hn.sound.1 t (hts ▸ List.mem_cons_self)
  have hless := @distances_made _ w cfg { n with pool := n.pool.drop 0 } hn.agrees hn.client_eq t ht
  have hfirst : n.pool.onWay[0]? = some t := by rw [hts]; rfl
  rw [LocalNet.step, hfirst]
  dsimp only
  rw [LocalNet.arrive_eq ht]
  simp only [Pool.add, Pool.drop, hts, List.eraseIdx_cons_zero, distances, List.map_append,
    List.sum_append, List.map_cons, List.sum_cons] at hless ⊢
  omega

/-- Nothing is on its way after some arrivals.

**Proof sketch.** Induction on how far the commands have to go. -/
lemma Complete.exists_arrived (hn : Complete w cfg n) :
    ∃ k, (Runs.run (LocalNet.step cfg) n (List.replicate k (.arrive 0))).pool.onWay = [] := by
  induction hd : w.distances n.pool.onWay using Nat.strong_induction_on generalizing n with
  | _ d ih =>
    by_cases hne : n.pool.onWay = []
    · exact ⟨0, hne⟩
    · obtain ⟨k, hk⟩ := ih _ (hd ▸ hn.distances_step hne) (hn.step (a := .arrive 0) trivial) rfl
      exact ⟨k + 1, hk⟩

/-- Nothing is sent when a command arrives. -/
lemma sent_arrivals (k : ℕ) : ∀ n : LocalNet Address, (Runs.run (LocalNet.step cfg) n
    (List.replicate k (.arrive 0))).sent = n.sent := by
  induction k with
  | zero => exact fun _ => rfl
  | succ k ih =>
    intro n
    rw [List.replicate_succ, Runs.run, ih, LocalNet.step]
    split
    · rw [LocalNet.arrive]
      split_ifs
      · rfl
      · rw [LocalNet.arriveAtHost]
        split <;> rfl
      · split <;> rfl
    · rfl

/-- **Messages are not lost**: if the tables of the proxies agree with those of the routing manager,
then in every run without the loss of a command, in which commands arrive in any order and the proxies
learn and forget at any time, each message that was sent is on its way or was delivered, as often as it
was sent, and only to the application that it is for. Once the commands on their way have arrived, which
takes finitely many steps, exactly the messages that were sent have been delivered.

**Proof sketch.** A proxy sends a message to the routing manager or to an application that it knows,
which is the right one. The routing manager delivers it, or passes it on to the right one. A command
thus goes from the sender to the routing manager and from there to the receiver at most. -/
theorem arrives_run (w : LocalWorld) (cfg : UInt16 → RouterConfig) (host : MessageRouter Address)
    (apps : UInt16 → Option MessageProxy) (hclient : host.client = w.host) (hw : w.Agrees host apps)
    (as : List (NetAction Address)) (has : ∀ a ∈ as, w.Allows cfg a) :
    let n := Runs.run (LocalNet.step cfg) (LocalNet.start host apps) as
    n.pool.contents Transit.content Delivery.content = ↑n.sent ∧
      (∀ d ∈ n.pool.arrived, d.client = w.destination d.content) ∧
      ∃ k, let n' := Runs.run (LocalNet.step cfg) n (List.replicate k (.arrive 0))
        n'.pool.onWay = [] ∧ (n'.pool.arrived.map Delivery.content).Perm n.sent ∧
          ∀ d ∈ n'.pool.arrived, d.client = w.destination d.content := by
  have hstart : Complete w cfg (LocalNet.start host apps) :=
    ⟨hclient, hw, Pool.all_empty, rfl, fun _ h => absurd h List.not_mem_nil⟩
  have hrun : Complete w cfg (Runs.run (LocalNet.step cfg) (LocalNet.start host apps) as) :=
    @Runs.inv_run _ _ (LocalNet.step cfg) (Complete w cfg) _ (fun hn ha => hn.step ha) _ _ hstart has
  have hright {n : LocalNet Address} (hn : Complete w cfg n) :
      ∀ d ∈ n.pool.arrived, d.client = w.destination d.content := fun d hd =>
    eq_destination (hn.sound.2 d hd).client_ne (hn.sound.2 d hd).isFor
  obtain ⟨k, hk⟩ := hrun.exists_arrived
  have hlast := @Runs.inv_run _ _ (LocalNet.step cfg) (Complete w cfg) (· = .arrive 0)
    (fun hn ha => hn.step (ha ▸ trivial)) (List.replicate k (.arrive 0)) _ hrun
    fun _ => List.eq_of_mem_replicate
  refine ⟨hrun.contents, hright hrun, k, hk, ?_, hright hlast⟩
  have hcontents := hlast.contents
  rw [sent_arrivals, Pool.contents, hk] at hcontents
  exact Multiset.coe_eq_coe.mp ((zero_add _).symm.trans hcontents)

/-- The applications of the example. -/
def exampleWorld : LocalWorld where
  host := 0x100
  IsClient := fun c => c = 0x101 ∨ c = 0x102
  provider := LocalNet.exampleHost.localServices
  host_ne := by decide
  not_isClient_host := by decide
  not_isClient_routing := by decide
  isClient_provider := fun {k c} h => by
    rw [LocalNet.exampleHost] at h
    dsimp only at h
    split_ifs at h
    exact .inr (.inr (Option.some.inj h).symm)

/-- The tables of the example agree. -/
lemma exampleWorld_agrees : exampleWorld.Agrees LocalNet.exampleHost LocalNet.exampleApps where
  localServices := rfl
  localEndpoints := fun c => decide_eq_true_iff
  registered := fun c hc => ⟨_, if_pos hc⟩
  proxies := fun c p happ => by
    rw [LocalNet.exampleApps] at happ
    split_ifs at happ
    obtain rfl := Option.some.inj happ
    exact ⟨rfl, rfl, fun k c' hservice => absurd hservice (by simp)⟩

/-- A request and its response are allowed. -/
lemma exampleWorld_allows {a : NetAction UInt32} (ha : a ∈ LocalNet.exampleRun) :
    exampleWorld.Allows (fun _ => LocalNet.exampleConfig) a := by
  have hrequest : exampleWorld.Deliverable (fun _ => LocalNet.exampleConfig)
      ⟨(LocalNet.exampleMessage 0x00).data, 1, true, true⟩ :=
    ⟨.inr (.inr rfl), fun _ _ => rfl,
      ⟨MessageImpl.headerOf (LocalNet.exampleMessage 0x00).data, some []⟩, by decide⟩
  have hresponse : exampleWorld.Deliverable (fun _ => LocalNet.exampleConfig)
      ⟨(LocalNet.exampleMessage 0x80).data, 1, true, true⟩ :=
    ⟨.inr (.inl rfl), fun _ _ => rfl,
      ⟨MessageImpl.headerOf (LocalNet.exampleMessage 0x80).data, some []⟩, by decide⟩
  simp only [LocalNet.exampleRun, List.mem_cons, List.not_mem_nil, or_false] at ha
  rcases ha with rfl | rfl | rfl | rfl | rfl
  · exact ⟨⟨by decide, by decide⟩, .inr (.inl rfl), hrequest⟩
  · trivial
  · trivial
  · exact ⟨⟨by decide, by decide⟩, .inr (.inr rfl), hresponse⟩
  · trivial

/-- A request and its response arrive. -/
theorem arrives_run_example :
    ∃ k, ((Runs.run (LocalNet.step fun _ => LocalNet.exampleConfig) (Runs.run (LocalNet.step fun _ =>
      LocalNet.exampleConfig) (LocalNet.start LocalNet.exampleHost LocalNet.exampleApps)
        LocalNet.exampleRun) (List.replicate k (.arrive 0))).pool.arrived.map Delivery.content).Perm
      [⟨(LocalNet.exampleMessage 0x00).data, 1, true, true⟩,
        ⟨(LocalNet.exampleMessage 0x80).data, 1, true, true⟩] := by
  obtain ⟨-, -, k, -, hperm, -⟩ := arrives_run exampleWorld (fun _ => LocalNet.exampleConfig)
    LocalNet.exampleHost LocalNet.exampleApps rfl exampleWorld_agrees LocalNet.exampleRun
    fun _ => exampleWorld_allows
  exact ⟨k, hperm.trans (.of_eq (by decide))⟩

end LocalWorld

end Vsomeip
