import Vsomeip.E2E.ProfileCustom
import Vsomeip.Endpoints.Tcp
import Vsomeip.Lib.Runs
import Vsomeip.Message.MessageImpl
import Vsomeip.ServiceDiscovery.RoundTrip
import Vsomeip.ServiceDiscovery.Session

set_option relaxedAutoImplicit false
set_option autoImplicit false

/-!
# The shared serializers

Service discovery and the routing manager have one serializer each for all messages that they send. It
is reset after a message was sent. If a message fails to serialize, what was written of it stays in the
serializer, and the next message is appended to it.

A message of service discovery fails if an eventgroup entry has a counter of more than four bits, and
any other message if there is no memory for its payload. Whether there is memory and what becomes of
the bytes that are sent is left open.

## Main definitions

* `Vsomeip.Outgoing` — the serializers and the sessions of service discovery.
* `Vsomeip.Outgoing.serializeAndSend`, `Vsomeip.Outgoing.send`, `Vsomeip.Outgoing.sendTo`,
  `Vsomeip.Outgoing.sendError` — the functions of the source.
* `Vsomeip.Outgoing.Untainted` — a message is sent with its own bytes.
* `Vsomeip.OutgoingAction.Leftover` — an earlier message has left bytes.

## Main results

* `Vsomeip.Outgoing.data_run_eq_nil_iff` — when a serializer is empty.
* `Vsomeip.Outgoing.untainted_along_iff` — when all messages are sent with their own bytes.
-/

namespace Vsomeip

open Serializer

/-! ## Messages -/

/-- `message_impl::serialize`, if there is memory for the payload or not. An empty one needs none. -/
def MessageImpl.serializeIn (m : MessageImpl) (isAllocated : Bool) : Serializer := do
  m.header.serialize m.getLength
  match m.payload with
  | some payload =>
    if isAllocated || payload.isEmpty then serializeBytes payload else Parse.fail
  | none => pure ()

/-- `set_session` and `set_reboot_flag`. -/
def Sd.MessageImpl.setSession (m : Sd.MessageImpl) (session : Session.Number) : Sd.MessageImpl :=
  { m with
    header := { m.header with session := session.1 }
    flags := if session.2 then m.flags ||| 0x80 else m.flags &&& ~~~0x80 }

/-- The custom protectors of the routing manager, by service and method: those of the profile CRC32.
Protectors of the profile CRC8, which have a counter, are left out. -/
structure CustomProtectors where
  isE2eEnabled : Bool
  customProtectors : UInt16 → UInt16 → Option ProfileCustom.Config

/-- The part of `routing_manager_impl::send_to` that protects the payload. -/
def CustomProtectors.protect (e2e : CustomProtectors) (data : List UInt8) : List UInt8 :=
  if e2e.isE2eEnabled then
    let itsService := bytesToWord (data.getD 0 0) (data.getD 1 0)
    let itsMethod := bytesToWord (data.getD 2 0) (data.getD 3 0)
    match e2e.customProtectors itsService itsMethod with
    | some cfg => data.take 16 ++ ProfileCustom.protect cfg (data.drop 16)
    | none => data
  else data

/-- The message that `routing_manager_impl::send_error` makes. The payload of a new message is empty. -/
def errorMessage (returnCode : UInt8) (data : List UInt8) : MessageImpl where
  header :=
    { service := if data.length ≥ 1 then bytesToWord (data.getD 0 0) (data.getD 1 0) else 0
      method := if data.length ≥ 3 then bytesToWord (data.getD 2 0) (data.getD 3 0) else 0
      length := 0
      client := if data.length ≥ 9 then bytesToWord (data.getD 8 0) (data.getD 9 0) else 0
      session := if data.length ≥ 11 then bytesToWord (data.getD 10 0) (data.getD 11 0) else 0
      protocolVersion := 0x01
      interfaceVersion := if data.length ≥ 13 then data.getD 13 0 else 0
      type := 0x81
      code := returnCode }
  payload := some []

/-! ## The functions -/

/-- The serializers of service discovery and of the routing manager. -/
inductive Component
  | serviceDiscovery
  | routing
deriving DecidableEq

/-- `data_` of the two serializers, and `sessions_sent_`. -/
structure Outgoing (Address : Type) where
  data : Component → List UInt8
  sessionsSent : Address → Option Session.Number

/-- The calls. `isSent` is the result of `send_to` of the host, and `isAllocated` says whether there is
memory for the payload. -/
inductive OutgoingAction (Address : Type)
  | serializeAndSend (m : Sd.MessageImpl) (address : Address) (isSent : Bool)
  | send (client : UInt16) (m : MessageImpl) (isAllocated : Bool)
  | sendTo (m : MessageImpl) (isAllocated : Bool)
  | sendError (returnCode : UInt8) (data : List UInt8) (hasReceiver : Bool)

namespace Outgoing

variable {Address : Type} [DecidableEq Address]

/-- Replace what a serializer holds. -/
def setData (s : Outgoing Address) (component : Component) (data : List UInt8) : Outgoing Address :=
  { s with data := Function.update s.data component data }

variable (e2e : CustomProtectors) (s : Outgoing Address)

/-- `service_discovery_impl::serialize_and_send`, with the bytes that are sent. -/
def serializeAndSend (m : Sd.MessageImpl) (address : Address) (isSent : Bool) :
    Option (List UInt8) × Outgoing Address :=
  let (itsSession, sessionsSent) := Session.getSession s.sessionsSent address
  let s := { s with sessionsSent }
  match (m.setSession itsSession).serialize (s.data .serviceDiscovery) with
  | (none, data) => (none, s.setData .serviceDiscovery data)
  | (some _, data) =>
    let s := if isSent then { s with sessionsSent := Session.incrementSession sessionsSent address }
      else s
    (some data, s.setData .serviceDiscovery [])

/-- `routing_manager_base::send`, with the bytes that are handed on. -/
def send (itsClient : UInt16) (m : MessageImpl) (isAllocated : Bool) :
    Option (List UInt8) × Outgoing Address :=
  let m := if isRequest m.header.type then { m with header := { m.header with client := itsClient } }
    else m
  match m.serializeIn isAllocated (s.data .routing) with
  | (some _, data) => (some data, s.setData .routing [])
  | (none, data) => (none, s.setData .routing data)

/-- `routing_manager_impl::send_to`, with the bytes that are handed on. -/
def sendTo (m : MessageImpl) (isAllocated : Bool) : Option (List UInt8) × Outgoing Address :=
  match m.serializeIn isAllocated (s.data .routing) with
  | (some _, data) => (some (e2e.protect data), s.setData .routing [])
  | (none, data) => (none, s.setData .routing data)

/-- `routing_manager_impl::send_error`, with the bytes that are handed on. -/
def sendError (returnCode : UInt8) (data : List UInt8) (hasReceiver : Bool) :
    Option (List UInt8) × Outgoing Address :=
  match (errorMessage returnCode data).serializeIn true (s.data .routing) with
  | (some _, data) => (if hasReceiver then some data else none, s.setData .routing [])
  | (none, data) => (none, s.setData .routing data)

/-- A call. -/
def call : OutgoingAction Address → Option (List UInt8) × Outgoing Address
  | .serializeAndSend m address isSent => s.serializeAndSend m address isSent
  | .send client m isAllocated => s.send client m isAllocated
  | .sendTo m isAllocated => s.sendTo e2e m isAllocated
  | .sendError returnCode data hasReceiver => s.sendError returnCode data hasReceiver

/-- The state after a call. -/
def step (a : OutgoingAction Address) : Outgoing Address := (s.call e2e a).2

/-- The serializers of new components are empty. -/
def init : Outgoing Address := ⟨fun _ => [], fun _ => none⟩

end Outgoing

namespace OutgoingAction

variable {Address : Type} [DecidableEq Address]

/-- The component whose serializer a call uses. -/
def component : OutgoingAction Address → Component
  | serializeAndSend _ _ _ => .serviceDiscovery
  | _ => .routing

/-- An entry is written to its end. -/
def isWritable : Sd.Entry → Bool
  | .service _ => true
  | .eventgroup e => e.counter < 16

/-- The message of a call serializes: the counters of its entries have four bits, or there is memory
for its payload. -/
def serializes : OutgoingAction Address → Bool
  | serializeAndSend m _ _ => m.entries.all isWritable
  | send _ m isAllocated => isAllocated || (m.payload.getD []).isEmpty
  | sendTo m isAllocated => isAllocated || (m.payload.getD []).isEmpty
  | sendError _ _ _ => true

/-- The message of a call serializes, and there is somebody to send it to. -/
def sends : OutgoingAction Address → Bool
  | sendError _ _ hasReceiver => hasReceiver
  | a => a.serializes

/-- The serialization of the message of a call, with the session of service discovery. -/
def serialize (s : Outgoing Address) : OutgoingAction Address → Serializer
  | serializeAndSend m address _ =>
    (m.setSession (Session.getSession s.sessionsSent address).1).serialize
  | send client m isAllocated =>
    (if isRequest m.header.type then { m with header := { m.header with client } } else m).serializeIn
      isAllocated
  | sendTo m isAllocated => m.serializeIn isAllocated
  | sendError returnCode data _ => (errorMessage returnCode data).serializeIn true

/-- What a call sends for the bytes of its message: `send_to` protects them, and `send_error` needs a
receiver. -/
def sent (e2e : CustomProtectors) (bytes : List UInt8) : OutgoingAction Address → Option (List UInt8)
  | sendTo _ _ => some (e2e.protect bytes)
  | sendError _ _ hasReceiver => if hasReceiver then some bytes else none
  | _ => some bytes

/-- A call has left bytes in the serializer of a component: its message failed, and no later one of the
component serialized. -/
def Leftover (pre : List (OutgoingAction Address)) (component : Component) : Prop :=
  ∃ before a behind, pre = before ++ a :: behind ∧ a.component = component ∧ a.serializes = false ∧
    ∀ b ∈ behind, b.component = component → b.serializes = false

end OutgoingAction

namespace Outgoing

variable {Address : Type} [DecidableEq Address] (e2e : CustomProtectors) (s : Outgoing Address)

/-- If the message of a call serializes, the call sends exactly what the message alone serializes to. -/
def Untainted (a : OutgoingAction Address) : Prop :=
  (a.serialize s []).1 = some () → (s.call e2e a).1 = a.sent e2e (a.serialize s []).2

end Outgoing

/-! ## Serializations -/

/-- An entry is written to its end unless its counter is too large. -/
lemma Sd.Entry.appends_serialize (e : Sd.Entry) :
    Appends e.serialize (OutgoingAction.isWritable e) 0 := by
  cases e with
  | service e => exact e.writes_serialize.appends.mono (Nat.zero_le _)
  | eventgroup e =>
    by_cases hcounter : e.counter < 16
    · simp only [OutgoingAction.isWritable, hcounter, decide_true]
      have hlt : e.counter.toNat < 16 := UInt8.lt_iff_toNat_lt.mp hcounter
      exact (Sd.EventgroupentryImpl.writes_serialize hlt).appends.mono (Nat.zero_le _)
    · simp only [OutgoingAction.isWritable, hcounter, decide_false]
      have hfail : Appends (if e.counter ≥ 16 then Parse.fail else do
          serialize8 (e.counterAndReserved >>> 8).toUInt8
          serialize8 e.counterAndReserved.toUInt8
          serialize16 e.eventgroup) false 0 := by
        rw [if_pos (UInt8.not_lt.mp hcounter)]
        exact appends_fail
      exact ((e.toEntryImpl.writes_serialize.appends).bind <| (writes_serialize8 _).appends.bind <|
        (writes_serialize24 _).appends.bind hfail).mono (Nat.zero_le _)

/-- What serializing a message of the service discovery appends. -/
lemma Sd.MessageImpl.appends_serialize (m : Sd.MessageImpl) :
    Appends m.serialize (m.entries.all OutgoingAction.isWritable) 16 := by
  have hentries := appends_forM Sd.Entry.appends_serialize m.entries
  have hoptions : Appends (m.options.forM Sd.SdOption.serialize) (m.options.all fun _ => true) 0 :=
    appends_forM (fun o => o.writes_serialize.appends.mono (Nat.zero_le _)) m.options
  have h : Appends m.serialize (true && (true && (true && (true &&
      (m.entries.all OutgoingAction.isWritable && (true && m.options.all fun _ => true)))))) 16 :=
    (m.header.writes_serialize m.getLength).appends.bind <| (writes_serialize8 _).appends.bind <|
      (writes_serialize24 0).appends.bind <| (writes_serialize32 _).appends.bind <|
      hentries.bind <| (writes_serialize32 _).appends.bind hoptions
  have hall : (m.options.all fun _ => true) = true := List.all_eq_true.mpr fun _ _ => rfl
  simpa [hall] using h

/-- What serializing a message appends, if there is memory for it or not. -/
lemma MessageImpl.appends_serializeIn (m : MessageImpl) (isAllocated : Bool) :
    Appends (m.serializeIn isAllocated) (isAllocated || (m.payload.getD []).isEmpty) 16 := by
  have hpayload : Appends (match m.payload with
      | some payload =>
        if isAllocated || payload.isEmpty then serializeBytes payload else Parse.fail
      | none => pure ()) (isAllocated || (m.payload.getD []).isEmpty) 0 := by
    cases m.payload with
    | none =>
      rw [Option.getD_none, List.isEmpty_nil, Bool.or_true]
      exact appends_pure
    | some payload =>
      rw [Option.getD_some]
      dsimp only
      generalize (isAllocated || payload.isEmpty) = isWritten
      cases isWritten with
      | true => exact (writes_serializeBytes payload).appends.mono (Nat.zero_le _)
      | false => exact appends_fail
  have h : Appends (m.serializeIn isAllocated)
      (true && (isAllocated || (m.payload.getD []).isEmpty)) 16 :=
    (m.header.writes_serialize m.getLength).appends.bind hpayload
  rwa [Bool.true_and] at h

namespace Outgoing

variable {Address : Type} [DecidableEq Address] (e2e : CustomProtectors) (s : Outgoing Address)

/-- What the message of a call serializes to does not depend on what the serializer holds. -/
lemma appends_serialize (a : OutgoingAction Address) : Appends (a.serialize s) a.serializes 16 := by
  cases a with
  | serializeAndSend m address isSent => exact Sd.MessageImpl.appends_serialize _
  | send client m isAllocated =>
    simp only [OutgoingAction.serialize]
    split
    · exact MessageImpl.appends_serializeIn _ isAllocated
    · exact m.appends_serializeIn isAllocated
  | sendTo m isAllocated => exact m.appends_serializeIn isAllocated
  | sendError returnCode data hasReceiver =>
    exact (errorMessage returnCode data).appends_serializeIn true

/-- What a call does to the serializers and what it sends. -/
lemma call_spec (a : OutgoingAction Address) : ∃ bytes ≠ [],
    a.serialize s [] = (if a.serializes then some () else none, bytes) ∧
    (s.call e2e a).1 =
      (if a.serializes then a.sent e2e (s.data a.component ++ bytes) else none) ∧
    (s.step e2e a).data =
      Function.update s.data a.component
        (if a.serializes then [] else s.data a.component ++ bytes) := by
  obtain ⟨bytes, hlength, hbytes⟩ := s.appends_serialize a
  refine ⟨bytes, ?_, by simpa using hbytes [], ?_⟩
  · rintro rfl
    exact absurd hlength (by decide)
  · have hserialize := hbytes (s.data a.component)
    cases a with
    | serializeAndSend m address isSent =>
      simp only [OutgoingAction.serialize, OutgoingAction.component] at hserialize
      simp only [step, call, serializeAndSend, OutgoingAction.component, hserialize]
      cases (OutgoingAction.serializeAndSend m address isSent).serializes with
      | false => exact ⟨rfl, rfl⟩
      | true => exact ⟨rfl, by cases isSent <;> rfl⟩
    | send client m isAllocated =>
      simp only [OutgoingAction.serialize, OutgoingAction.component] at hserialize
      simp only [step, call, send, OutgoingAction.component, hserialize]
      cases (OutgoingAction.send client m isAllocated : OutgoingAction Address).serializes <;>
        exact ⟨rfl, rfl⟩
    | sendTo m isAllocated =>
      simp only [OutgoingAction.serialize, OutgoingAction.component] at hserialize
      simp only [step, call, sendTo, OutgoingAction.component, hserialize]
      cases (OutgoingAction.sendTo m isAllocated : OutgoingAction Address).serializes <;>
        exact ⟨rfl, rfl⟩
    | sendError returnCode data hasReceiver =>
      simp only [OutgoingAction.serialize, OutgoingAction.component] at hserialize
      simp only [step, call, sendError, OutgoingAction.component, hserialize]
      exact ⟨rfl, rfl⟩

/-- Protecting a message keeps its length. -/
lemma length_protect (data : List UInt8) : (e2e.protect data).length = data.length := by
  have hlength (cfg : ProfileCustom.Config) (buffer : List UInt8) :
      (ProfileCustom.protect cfg buffer).length = buffer.length := by
    rw [ProfileCustom.protect]
    split <;> simp
  rw [CustomProtectors.protect]
  split
  · dsimp only
    cases e2e.customProtectors (bytesToWord (data.getD 0 0) (data.getD 1 0))
      (bytesToWord (data.getD 2 0) (data.getD 3 0)) with
    | none => rfl
    | some cfg =>
      simp only [hlength, List.length_append, List.length_take, List.length_drop]
      omega
  · rfl

omit [DecidableEq Address] in
/-- Bytes in front of those of the message change what is sent, if anything is sent. -/
lemma sent_append_eq_iff {a : OutgoingAction Address} (hserializes : a.serializes = true)
    (data bytes : List UInt8) :
    a.sent e2e (data ++ bytes) = a.sent e2e bytes ↔ (a.sends = true → data = []) := by
  have hnil {f : List UInt8 → List UInt8} (hf : ∀ d, (f d).length = d.length) :
      f (data ++ bytes) = f bytes ↔ data = [] := by
    constructor
    · intro h
      have hlength := congrArg List.length h
      rw [hf, hf, List.length_append] at hlength
      exact List.eq_nil_of_length_eq_zero (by omega)
    · rintro rfl
      rfl
  cases a with
  | serializeAndSend m address isSent =>
    simp only [OutgoingAction.sent, OutgoingAction.sends, hserializes, true_imp_iff, Option.some.injEq]
    exact hnil (f := id) fun _ => rfl
  | send client m isAllocated =>
    simp only [OutgoingAction.sent, OutgoingAction.sends, hserializes, true_imp_iff, Option.some.injEq]
    exact hnil (f := id) fun _ => rfl
  | sendTo m isAllocated =>
    simp only [OutgoingAction.sent, OutgoingAction.sends, hserializes, true_imp_iff, Option.some.injEq]
    exact hnil (length_protect e2e)
  | sendError returnCode data' hasReceiver =>
    cases hasReceiver with
    | false => simp [OutgoingAction.sent, OutgoingAction.sends]
    | true =>
      simp only [OutgoingAction.sent, OutgoingAction.sends, if_true, true_imp_iff, Option.some.injEq]
      exact hnil (f := id) fun _ => rfl

/-- A call sends the bytes of its message alone exactly if it sends nothing or the serializer is
empty. -/
lemma untainted_iff (a : OutgoingAction Address) :
    s.Untainted e2e a ↔ (a.sends = true → s.data a.component = []) := by
  obtain ⟨bytes, -, hown, hsent, -⟩ := s.call_spec e2e a
  rw [Untainted, hown, hsent]
  cases hserializes : a.serializes with
  | false =>
    have hsends : a.sends = false := by
      cases a <;> simp_all [OutgoingAction.sends, OutgoingAction.serializes]
    simp [hsends]
  | true =>
    rw [if_pos rfl, if_pos rfl, forall_prop_of_true rfl]
    exact sent_append_eq_iff e2e hserializes (s.data a.component) bytes

end Outgoing

namespace OutgoingAction

variable {Address : Type} [DecidableEq Address]

omit [DecidableEq Address] in
/-- Nothing is left over at the start. -/
lemma not_leftover_nil (component : Component) :
    ¬ Leftover ([] : List (OutgoingAction Address)) component := by
  rintro ⟨before, a, behind, hsplit, -⟩
  simp at hsplit

omit [DecidableEq Address] in
/-- The last call leaves bytes, or it keeps those that are left. -/
lemma leftover_append_singleton (pre : List (OutgoingAction Address)) (b : OutgoingAction Address)
    (component : Component) : Leftover (pre ++ [b]) component ↔
      (b.component = component → b.serializes = false) ∧
        (b.component = component ∨ Leftover pre component) := by
  constructor
  · rintro ⟨before, a, behind, hsplit, ha, hfails, hbehind⟩
    rcases List.eq_nil_or_concat' behind with rfl | ⟨behind, b', rfl⟩
    · obtain ⟨rfl, rfl⟩ := List.append_inj' hsplit rfl |>.imp_right List.singleton_inj.mp
      exact ⟨fun _ => hfails, Or.inl ha⟩
    · have hsplit' : pre ++ [b] = (before ++ a :: behind) ++ [b'] := by
        rw [hsplit, List.append_assoc, List.cons_append]
      obtain ⟨rfl, hb⟩ := List.append_inj' hsplit' rfl
      obtain rfl := List.singleton_inj.mp hb
      refine ⟨hbehind b (by simp), Or.inr ⟨before, a, behind, rfl, ha, hfails, fun c hc => ?_⟩⟩
      exact hbehind c (List.mem_append_left _ hc)
  · rintro ⟨hfails, hb | ⟨before, a, behind, rfl, ha, hfails', hbehind⟩⟩
    · exact ⟨pre, b, [], rfl, hb, hfails hb, fun c hc => absurd hc List.not_mem_nil⟩
    · refine ⟨before, a, behind ++ [b], by simp, ha, hfails', fun c hc => ?_⟩
      rcases List.mem_append.mp hc with hc | hc
      · exact hbehind c hc
      · rw [List.mem_singleton.mp hc]
        exact hfails

end OutgoingAction

namespace Outgoing

variable {Address : Type} [DecidableEq Address] (e2e : CustomProtectors)

/-- A serializer is empty exactly if no earlier call has left bytes in it.

**Proof sketch.** Induction on the calls from their end. The last call empties its serializer if its
message serializes, and otherwise it leaves some of its bytes there; the other serializer it does not
change. -/
lemma data_run_eq_nil_iff (as : List (OutgoingAction Address)) (component : Component) :
    (Runs.run (step e2e) init as).data component = [] ↔ ¬ OutgoingAction.Leftover as component := by
  induction as using List.reverseRecOn with
  | nil => exact iff_of_true rfl (OutgoingAction.not_leftover_nil component)
  | append_singleton as b ih =>
    obtain ⟨bytes, hne, -, -, hdata⟩ := (Runs.run (step e2e) init as).call_spec e2e b
    rw [Runs.run_append, OutgoingAction.leftover_append_singleton]
    change (step e2e (Runs.run (step e2e) init as) b).data component = [] ↔ _
    rw [hdata]
    by_cases hb : b.component = component
    · subst hb
      rw [Function.update_self]
      cases b.serializes with
      | false => simp [hne]
      | true => simp
    · rw [Function.update_of_ne (Ne.symm hb), ih]
      simp [hb]

/-- **In every run of calls, each message that serializes is sent with its own bytes, exactly if none
is sent after a message of the same component that failed, without one in between that serializes.** -/
theorem untainted_along_iff (e2e : CustomProtectors) (as : List (OutgoingAction Address)) :
    Runs.Along (step e2e) (Untainted e2e) init as ↔
      ∀ pre a post, as = pre ++ a :: post → a.sends = true →
        ¬ OutgoingAction.Leftover pre a.component := by
  rw [Runs.along_iff_forall]
  simp only [untainted_iff, data_run_eq_nil_iff]

/-- A subscription with a counter of 16, and then a message without entries. -/
theorem not_untainted_along : ¬ ∀ (e2e : CustomProtectors) (as : List (OutgoingAction Unit)),
    Runs.Along (step e2e) (Untainted e2e) init as := by
  intro h
  let subscribe : Sd.EventgroupentryImpl :=
    { type := .subscribeEventgroup, service := 0x1111, instance_ := 0x2222, majorVersion := 1, ttl := 3
      options1 := [], options2 := [], numOptions1 := 0, numOptions2 := 0, index1 := 0, index2 := 0
      eventgroup := 0x3333, reserved := 0, counter := 16 }
  let failing : Sd.MessageImpl := { Sd.MessageImpl.init with entries := [.eventgroup subscribe] }
  obtain ⟨-, huntainted, -⟩ := h ⟨false, fun _ _ => none⟩
    [.serializeAndSend failing () true, .serializeAndSend Sd.MessageImpl.init () true]
  -- The second message is sent behind the header and a part of the entry of the first.
  have hlength := congrArg (Option.map List.length) (huntainted (by decide))
  revert hlength
  decide

end Outgoing

end Vsomeip
