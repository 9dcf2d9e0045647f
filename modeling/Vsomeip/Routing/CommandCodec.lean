import Mathlib.Data.List.Chain
import Mathlib.Data.List.Nodup
import Vsomeip.Routing.LocalCommand

set_option relaxedAutoImplicit false
set_option autoImplicit false

/-!
# The writers of local commands

`routing_manager_proxy::send_register_event` and `routing_manager_base::send_local` build commands for
which the parsers of `LocalCommand` are the other side. The first one writes the eventgroups one after
the other; the second one writes a message, and behind it the instance, three flags and, for a
NOTIFY_ONE, the target client.

A REGISTER_EVENT is read at every byte behind its flags, so two neighbours make an eventgroup of their
own. The sizes of NOTIFY and NOTIFY_ONE are reduced by one flag less than is written, so their messages
get the first byte of the instance.

## Main definitions

* `Vsomeip.RegisterEvent.command` — `send_register_event`.
* `Vsomeip.RegisterEvent.ReadsBack` — the stub registers the same event with the same eventgroups.
* `Vsomeip.LocalData.command` — `send_local`.
* `Vsomeip.LocalData.Delivered` — stub and proxy get the same message and what stands behind it.

## Main results

* `Vsomeip.RegisterEvent.readsBack_iff` — when a REGISTER_EVENT is read back.
* `Vsomeip.LocalData.delivered_iff` — which of the data commands are delivered.
-/

namespace Vsomeip

open Checked Command

namespace Command

/-! ## Writing -/

/-- The bytes of a word, as `memcpy` writes them. -/
def ofWord (x : UInt16) : List UInt8 := [wordByte0 x, wordByte1 x]

/-- The bytes of a long. -/
def ofLong (x : UInt32) : List UInt8 := [longByte0 x, longByte1 x, longByte2 x, longByte3 x]

/-- The byte of a `bool`. -/
def ofBool (b : Bool) : UInt8 := if b then 1 else 0

/-- The header of a command: its type, its client and its size. -/
def header (type : UInt8) (client : UInt16) (size : UInt32) : List UInt8 :=
  type :: (ofWord client ++ ofLong size)

/-- A word has two bytes. -/
@[simp] lemma length_ofWord (x : UInt16) : (ofWord x).length = 2 := rfl

/-- A number has four bytes. -/
@[simp] lemma length_ofLong (x : UInt32) : (ofLong x).length = 4 := rfl

/-- A header has seven bytes. -/
@[simp] lemma length_header (type : UInt8) (client : UInt16) (size : UInt32) :
    (header type client size).length = 7 := rfl

/-- A flag is read back from its byte. -/
@[simp] lemma ofBool_bne (b : Bool) : (ofBool b != 0) = b := by cases b <;> rfl

section Reads

variable {data rest : List UInt8} {pos : ℕ}

/-- A byte is read where it was written. -/
lemma byte_of_drop {b : UInt8} (h : data.drop pos = b :: rest) : byte data pos = .ok b := by
  have hget : data[pos]? = some b := by
    rw [← List.head?_drop, h, List.head?_cons]
  rw [byte, List.getD_eq_getElem?_getD, hget]
  exact guarded_of (List.getElem?_eq_some_iff.mp hget).1 _ _

/-- A `bool` is read where it was written. -/
lemma bool_of_drop {b : Bool} (h : data.drop pos = ofBool b :: rest) : bool data pos = .ok b := by
  have hget : data[pos]? = some (ofBool b) := by
    rw [← List.head?_drop, h, List.head?_cons]
  rw [bool, List.getD_eq_getElem?_getD, hget, Option.getD_some, ofBool_bne]
  exact guarded_of (List.getElem?_eq_some_iff.mp hget).1 _ _

/-- The bytes at a position, one after the other. -/
lemma getD_of_drop {bytes : List UInt8} (h : data.drop pos = bytes ++ rest) {i : ℕ}
    (hi : i < bytes.length) : data.getD (pos + i) 0 = bytes.getD i 0 := by
  rw [List.getD_eq_getElem?_getD, List.getD_eq_getElem?_getD, ← List.getElem?_drop, h,
    List.getElem?_append_left hi]

/-- What is found in a command lies inside it. -/
lemma length_of_drop {bytes : List UInt8} (h : data.drop pos = bytes ++ rest) (hne : bytes ≠ []) :
    pos + bytes.length ≤ data.length := by
  have hlength := congrArg List.length h
  have hpos := List.length_pos_iff.mpr hne
  rw [List.length_drop, List.length_append] at hlength
  omega

/-- A word is read where it was written. -/
lemma word_of_drop {b b' : UInt8} (h : data.drop pos = b :: b' :: rest) :
    word data pos = .ok (bytesToWord b' b) := by
  have h : data.drop pos = [b, b'] ++ rest := h
  have h0 := getD_of_drop h (i := 0) (by simp)
  have h1 := getD_of_drop h (i := 1) (by simp)
  rw [Nat.add_zero] at h0
  rw [word, h0, h1]
  exact guarded_of (length_of_drop h (by simp)) _ _

/-- A word is read back. -/
lemma word_of_drop_ofWord {x : UInt16} (h : data.drop pos = ofWord x ++ rest) :
    word data pos = .ok x := by
  rw [word_of_drop (show data.drop pos = wordByte0 x :: wordByte1 x :: rest from h),
    bytesToWord_wordByte]

/-- A long is read where it was written. -/
lemma long_of_drop {x : UInt32} (h : data.drop pos = ofLong x ++ rest) : long data pos = .ok x := by
  have h0 := getD_of_drop h (i := 0) (by simp)
  have h1 := getD_of_drop h (i := 1) (by simp)
  have h2 := getD_of_drop h (i := 2) (by simp)
  have h3 := getD_of_drop h (i := 3) (by simp)
  rw [Nat.add_zero] at h0
  rw [long, h0, h1, h2, h3]
  rw [guarded_of (by simpa using length_of_drop h (by simp [ofLong]))]
  exact congrArg Except.ok (bytesToLong_longByte x)

end Reads

end Command

section Header

variable {type : UInt8} {client : UInt16} {size : UInt32} {payload : List UInt8}

/-- The payload stands behind the header. -/
lemma drop_header : (header type client size ++ payload).drop payloadPos = payload := rfl

/-- What is read of the header of a command. -/
lemma reads_header (type : UInt8) (client : UInt16) (size : UInt32) (payload : List UInt8) :
    (header type client size ++ payload).length = payload.length + 7 ∧
    byte (header type client size ++ payload) 0 = .ok type ∧
    word (header type client size ++ payload) 1 = .ok client ∧
    long (header type client size ++ payload) 3 = .ok size := by
  refine ⟨?_, byte_of_drop rfl, word_of_drop_ofWord rfl, long_of_drop rfl⟩
  rw [List.length_append, length_header, Nat.add_comm]

/-- The stub takes a command apart whose payload has the size in its header. -/
lemma StubCommand.onMessage_header (cfg : StubConfig) (hsize : size.toNat ≤ payload.length) :
    StubCommand.onMessage cfg (header type client size ++ payload) =
      if cfg.isSecurityEnabled && cfg.boundClient != client then pure []
      else dispatch cfg (header type client size ++ payload) client size (.ofByte type) := by
  obtain ⟨hlength, htype, hclient, hlong⟩ := reads_header type client size payload
  rw [onMessage, if_pos (by omega), htype, hclient]
  refine if_congr Iff.rfl rfl ?_
  rw [hlong]
  exact if_pos (by omega)

/-- The same of the proxy. -/
lemma ProxyCommand.onMessage_header (cfg : ProxyConfig) :
    ProxyCommand.onMessage cfg (header type client size ++ payload) =
      if cfg.isSecurityEnabled && cfg.boundClient != cfg.routingHostId && cfg.boundClient != client
      then pure []
      else dispatch cfg (header type client size ++ payload) client size (.ofByte type) := by
  obtain ⟨hlength, htype, hclient, hlong⟩ := reads_header type client size payload
  rw [onMessage, if_pos (by omega), htype, hclient, hlong]
  rfl

/-- The proxy makes no call if there is no complete header. -/
lemma ProxyCommand.onMessage_short {cfg : ProxyConfig} {data : List UInt8} {calls : List ProxyCall}
    (hshort : data.length < 7) (hcalls : ProxyCommand.onMessage cfg data = .ok calls) : calls = [] := by
  rw [onMessage] at hcalls
  split at hcalls
  · obtain ⟨command, -, hcalls⟩ := bind_eq_ok_iff.mp hcalls
    obtain ⟨client, -, hcalls⟩ := bind_eq_ok_iff.mp hcalls
    obtain ⟨itsLength, hlong, -⟩ := bind_eq_ok_iff.mp hcalls
    have hlength : 3 + 4 ≤ data.length := (guarded_eq_ok_iff.mp hlong).1
    omega
  · cases hcalls
    rfl

end Header

/-! ## Registrations of events -/

/-- A `std::set<eventgroup_t>`, in its order. -/
structure EventgroupSet where
  list : List UInt16
  sorted : list.Pairwise (· < ·)

/-- There are no more than 2 ^ 16 eventgroups. -/
lemma EventgroupSet.length_le (s : EventgroupSet) : s.list.length ≤ 2 ^ 16 := by
  have hnodup : (s.list.map UInt16.toNat).Nodup :=
    (s.sorted.imp fun h => Nat.ne_of_lt (UInt16.lt_iff_toNat_lt.mp h)).map _ fun _ _ h => h
  have hsub : s.list.map UInt16.toNat ⊆ List.range (2 ^ 16) := by
    intro n hn
    obtain ⟨g, -, rfl⟩ := List.mem_map.mp hn
    exact List.mem_range.mpr g.toNat_lt
  simpa using (hnodup.subperm hsub).length_le

/-- The arguments of `send_register_event`, and the client of the proxy. -/
structure RegisterEvent where
  client : UInt16
  service : UInt16
  instance_ : UInt16
  event : UInt16
  eventgroups : EventgroupSet
  isField : Bool
  isProvided : Bool

/-- The words at all positions of some bytes. -/
def words : List UInt8 → List UInt16
  | b :: b' :: bytes => bytesToWord b' b :: words (b' :: bytes)
  | _ => []

/-- What is read between two eventgroups: the high byte of the first one and the low byte of the
second one. -/
def between (g g' : UInt16) : UInt16 := bytesToWord (wordByte0 g') (wordByte1 g)

namespace RegisterEvent

variable (e : RegisterEvent)

/-- `its_eventgroups_size`. -/
def commandSize : ℕ := e.eventgroups.list.length * 2 + 15

/-- The bytes behind the header. -/
def payload : List UInt8 :=
  ofWord e.service ++ (ofWord e.instance_ ++ (ofWord e.event ++ (ofBool e.isField ::
    ofBool e.isProvided :: e.eventgroups.list.flatMap ofWord)))

/-- `routing_manager_proxy::send_register_event`. -/
def command : Option (List UInt8) :=
  if e.commandSize > 2 ^ 32 - 1 then none
  else some (header 0x1B e.client (UInt32.ofNat e.commandSize - 7) ++ e.payload)

/-- The stub does not skip the command of the client, and does not filter the event. -/
def Passes (cfg : StubConfig) : Prop :=
  ¬ (cfg.isSecurityEnabled && cfg.boundClient != e.client) ∧
    ¬ (e.isProvided && !cfg.isOfferedRemote e.service e.instance_)

/-- The stub registers the same event, with the same eventgroups. -/
def ReadsBack : Prop :=
  ∀ cfg, e.Passes cfg → ∃ command groups, e.command = some command ∧
    StubCommand.onMessage cfg command = .ok [.registerShadowEvent e.client e.service e.instance_
      e.event groups e.isField e.isProvided] ∧ ∀ g, g ∈ groups ↔ g ∈ e.eventgroups.list

/-- What is read between two neighbours is one of the eventgroups. -/
def Closed : Prop :=
  ∀ g g' : UInt16, [g, g'] <:+: e.eventgroups.list → between g g' ∈ e.eventgroups.list

variable {e}

/-- The loop of the parser reads the words at all positions. -/
lemma mapM_word {data : List UInt8} : ∀ {bytes : List UInt8} {i : ℕ},
    data.drop (payloadPos + i) = bytes →
    (List.range' i (bytes.length - 1)).mapM (fun i => word data (payloadPos + i)) =
      (.ok (words bytes) : Except Fault (List UInt16))
  | [], _, _ => rfl
  | [_], _, _ => rfl
  | b :: b' :: bytes, i, h => by
    have hrest : data.drop (payloadPos + (i + 1)) = b' :: bytes := by
      rw [← Nat.add_assoc, ← List.tail_drop, h, List.tail_cons]
    have ih := mapM_word hrest
    rw [List.length_cons, Nat.add_sub_cancel] at ih
    rw [List.length_cons, List.length_cons, Nat.add_sub_cancel, List.range'_succ, List.mapM_cons,
      word_of_drop h, ih]
    rfl

/-- The words in a list of eventgroups: the eventgroups, and what is read between neighbours. -/
lemma mem_words_iff {g : UInt16} : ∀ {l : List UInt16}, g ∈ words (l.flatMap ofWord) ↔
    g ∈ l ∨ ∃ g₁ g₂, [g₁, g₂] <:+: l ∧ g = between g₁ g₂
  | [] => by simp [words]
  | [g₁] => by
    have hnone (g₁ g₂ g₃ : UInt16) : ¬ [g₂, g₃] <:+: [g₁] := fun h => by simpa using h.length_le
    simp [words, ofWord, hnone]
  | g₁ :: g₂ :: l => by
    have hwords : words ((g₁ :: g₂ :: l).flatMap ofWord) =
        g₁ :: between g₁ g₂ :: words ((g₂ :: l).flatMap ofWord) := by
      simp [words, ofWord, between]
    rw [hwords, List.mem_cons, List.mem_cons, mem_words_iff, List.mem_cons (b := g₁)]
    have hpair (g₃ g₄ : UInt16) : [g₃, g₄] <:+: g₁ :: g₂ :: l ↔
        (g₃ = g₁ ∧ g₄ = g₂) ∨ [g₃, g₄] <:+: g₂ :: l := by
      rw [List.infix_cons_iff]
      simp [List.cons_prefix_cons]
    simp only [hpair, or_and_right, exists_or]
    constructor
    · rintro (h | h | h | h)
      · exact .inl (.inl h)
      · exact .inr (.inl ⟨g₁, g₂, ⟨rfl, rfl⟩, h⟩)
      · exact .inl (.inr h)
      · exact .inr (.inr h)
    · rintro ((h | h) | ⟨_, _, ⟨rfl, rfl⟩, h⟩ | h)
      · exact .inl h
      · exact .inr (.inr (.inl h))
      · exact .inr (.inl h)
      · exact .inr (.inr (.inr h))

/-- The length of the payload of a REGISTER_EVENT. -/
lemma length_payload (e : RegisterEvent) :
    e.payload.length = e.eventgroups.list.length * 2 + 8 := by
  have hwords : (e.eventgroups.list.flatMap ofWord).length = e.eventgroups.list.length * 2 := by
    simp [List.length_flatMap]
  simp [payload, hwords]
  omega

/-- The size in the header is the number of bytes behind it. -/
lemma toNat_size (e : RegisterEvent) :
    (UInt32.ofNat e.commandSize - 7).toNat = e.payload.length := by
  have hle := e.eventgroups.length_le
  have hsize : (UInt32.ofNat e.commandSize).toNat = e.commandSize := by
    rw [UInt32.toNat_ofNat']
    exact Nat.mod_eq_of_lt (by rw [commandSize]; omega)
  rw [UInt32.toNat_sub_of_le, hsize, length_payload, commandSize]
  · exact Nat.add_sub_add_right _ 8 7 |>.trans rfl
  · rw [UInt32.le_iff_toNat_le, hsize, commandSize]
    exact Nat.le_add_left_of_le (by decide)

/-- The command of a REGISTER_EVENT. -/
lemma command_eq (e : RegisterEvent) : e.command =
    some (header 0x1B e.client (UInt32.ofNat e.commandSize - 7) ++ e.payload) := by
  have hle := e.eventgroups.length_le
  rw [command, if_neg]
  rw [commandSize]
  omega

/-- The stub reads everything back, but the eventgroups at all positions. -/
lemma onMessage_command {cfg : StubConfig} (h : e.Passes cfg) :
    StubCommand.onMessage cfg
        (header 0x1B e.client (UInt32.ofNat e.commandSize - 7) ++ e.payload) =
      .ok [.registerShadowEvent e.client e.service e.instance_ e.event
        (words (e.eventgroups.list.flatMap ofWord)) e.isField e.isProvided] := by
  rw [StubCommand.onMessage_header cfg e.toNat_size.le, if_neg h.1]
  generalize hdata : header 0x1B e.client (UInt32.ofNat e.commandSize - 7) ++ e.payload = data
  have hlength : data.length = e.payload.length + 7 := by
    rw [← hdata, List.length_append, length_header, Nat.add_comm]
  have hpayload : data.drop payloadPos = e.payload := by rw [← hdata, drop_header]
  have hdrop (i : ℕ) : data.drop (payloadPos + i) = e.payload.drop i := by
    rw [← hpayload, List.drop_drop]
  have hservice : word data payloadPos = .ok e.service := word_of_drop_ofWord hpayload
  have hinstance : word data (payloadPos + 2) = .ok e.instance_ := word_of_drop_ofWord (hdrop 2)
  have hevent : word data (payloadPos + 4) = .ok e.event := word_of_drop_ofWord (hdrop 4)
  have hfield : Command.bool data (payloadPos + 6) = .ok e.isField := bool_of_drop (hdrop 6)
  have hprovided : Command.bool data (payloadPos + 7) = .ok e.isProvided := bool_of_drop (hdrop 7)
  have hgroups : (List.range' 8 ((UInt32.ofNat e.commandSize - 7).toNat - 1 - 8)).mapM
      (fun i => word data (payloadPos + i)) =
        (.ok (words (e.eventgroups.list.flatMap ofWord)) : Except Fault (List UInt16)) := by
    have hwords : data.drop (payloadPos + 8) = e.eventgroups.list.flatMap ofWord := hdrop 8
    have hcount : (UInt32.ofNat e.commandSize - 7).toNat - 1 - 8 =
        (e.eventgroups.list.flatMap ofWord).length - 1 := by
      rw [toNat_size, ← hwords, List.length_drop, hlength, payloadPos]
      omega
    rw [hcount]
    exact mapM_word hwords
  change StubCommand.registerEvent cfg data e.client _ = _
  rw [StubCommand.registerEvent, if_neg, hservice, hinstance, hevent, hfield, hprovided]
  · change (if (e.isProvided && !cfg.isOfferedRemote e.service e.instance_) = true then pure []
      else _) = _
    rw [if_neg h.2, hgroups]
    rfl
  · rw [hlength, length_payload]
    omega

/-- What is read between two neighbours is registered. -/
lemma ReadsBack.closed (h : e.ReadsBack) : e.Closed := by
  intro g g' hpair
  have hpasses : e.Passes ⟨false, fun _ _ _ => true, fun _ _ => true, 0, 0⟩ := ⟨by simp, by simp⟩
  obtain ⟨command, groups, hcommand, hcalls, hgroups⟩ := h _ hpasses
  rw [command_eq, Option.some.injEq] at hcommand
  rw [← hcommand, onMessage_command hpasses] at hcalls
  simp only [Except.ok.injEq, List.cons.injEq, StubCall.registerShadowEvent.injEq, true_and,
    and_true] at hcalls
  rw [← hgroups, ← hcalls, mem_words_iff]
  exact .inr ⟨g, g', hpair, rfl⟩

/-- **A REGISTER_EVENT is read back** exactly if all that is read between two neighbours is one of the
eventgroups, so whenever there is at most one. -/
theorem readsBack_iff (e : RegisterEvent) : e.ReadsBack ↔ e.Closed := by
  refine ⟨ReadsBack.closed, fun h cfg hpasses => ?_⟩
  refine ⟨_, _, e.command_eq, onMessage_command hpasses, fun g => ?_⟩
  rw [mem_words_iff, or_iff_left_iff_imp]
  rintro ⟨g₁, g₂, hpair, rfl⟩
  exact h g₁ g₂ hpair

/-- **A REGISTER_EVENT that is not read back**: the eventgroups 1 and 2 become 1, 0x200 and 2. -/
theorem not_readsBack_two : ¬ ∀ e : RegisterEvent, e.ReadsBack := by
  intro h
  have hclosed :=
    (h ⟨0x1234, 0x1111, 1, 0x8001, ⟨[1, 2], by decide⟩, true, true⟩).closed 1 2 List.infix_rfl
  exact absurd hclosed (by decide)

end RegisterEvent

/-! ## Messages -/

/-- The commands of `send_local`. -/
inductive DataCommand
  | send
  | notify
  | notifyOne
deriving DecidableEq

/-- The byte of a command. -/
def DataCommand.toByte : DataCommand → UInt8
  | .send => 0x18
  | .notify => 0x19
  | .notifyOne => 0x1A

/-- The arguments of `send_local`, with the client of the sender. The message is a SOME/IP message, with
a size of 32 bits. -/
structure LocalData where
  sender : UInt16
  targetClient : UInt16
  message : List UInt8
  instance_ : UInt16
  flush : Bool
  reliable : Bool
  isValidCrc : Bool
  headed : 16 ≤ message.length
  sized : message.length < 2 ^ 32

namespace LocalData

variable (d : LocalData) (c : DataCommand)

/-- What stands behind the message. -/
def trailer : List UInt8 :=
  ofWord d.instance_ ++ (ofBool d.flush :: ofBool d.reliable :: ofBool d.isValidCrc ::
    if c = .notifyOne then ofWord d.targetClient else [])

/-- `its_complete_size`. -/
def completeSize : ℕ := d.message.length + 2 + 1 + 1 + 1 + if c = .notifyOne then 2 else 0

/-- `routing_manager_base::send_local`. The size of the command is handed on in 32 bits. -/
def command : List UInt8 :=
  (header c.toByte d.sender (UInt32.ofNat (d.completeSize c)) ++ (d.message ++ d.trailer c)).take
    (UInt32.ofNat (7 + d.completeSize c)).toNat

/-- The service in the header of the message. -/
def service : UInt16 := bytesToWord (d.message.getD 0 0) (d.message.getD 1 0)

/-- The client in the header of the message. -/
def clientFromHeader : UInt16 := bytesToWord (d.message.getD 8 0) (d.message.getD 9 0)

/-- The stub does not skip the command of the sender, and the policy allows a message that is sent. -/
def StubPasses (cfg : StubConfig) : Prop :=
  ¬ (cfg.isSecurityEnabled && cfg.boundClient != d.sender) ∧
    (c = .send → cfg.isClientAllowed
      (if isRequest (d.message.getD 14 0) then d.clientFromHeader else cfg.client) d.service
        d.instance_)

/-- The proxy does not skip the command. -/
def ProxyPasses (cfg : ProxyConfig) : Prop :=
  ¬ (cfg.isSecurityEnabled && cfg.boundClient != cfg.routingHostId && cfg.boundClient != d.sender)

/-- The call of the stub with the message and what stands behind it. -/
def stubCall : DataCommand → StubCall
  | .send => .onMessage d.service d.instance_ (UInt32.ofNat d.message.length) d.reliable d.isValidCrc
  | .notify => .onNotification 0 d.service d.instance_ (UInt32.ofNat d.message.length) false
  | .notifyOne =>
    .onNotification d.targetClient d.service d.instance_ (UInt32.ofNat d.message.length) true

/-- The stub makes this call, and the bytes it hands on are the message; a SEND is taken apart by the
proxy as well. -/
def Delivered : Prop :=
  (∀ cfg, d.StubPasses c cfg → StubCommand.onMessage cfg (d.command c) = .ok [d.stubCall c] ∧
    ((d.command c).drop payloadPos).take d.message.length = d.message) ∧
  (c = .send → ∀ cfg, d.ProxyPasses cfg → ProxyCommand.onMessage cfg (d.command c) =
    .ok [.onMessage d.message d.instance_ d.reliable d.isValidCrc])

variable {d c}

/-- The length of what follows a message in its command. -/
lemma length_trailer : (d.trailer c).length = 5 + if c = .notifyOne then 2 else 0 := by
  rw [trailer]
  split <;> rfl

/-- The command when its size fits into 32 bits. -/
lemma command_eq (h : 7 + d.completeSize c < 2 ^ 32) : d.command c =
    header c.toByte d.sender (UInt32.ofNat (d.completeSize c)) ++ (d.message ++ d.trailer c) := by
  rw [command, List.take_of_length_le]
  rw [UInt32.toNat_ofNat', Nat.mod_eq_of_lt h, List.length_append, List.length_append, length_trailer,
    length_header, completeSize]
  omega

/-- A command whose size does not fit into 32 bits has no room for the message. -/
lemma completeSize_lt (h : ((d.command c).drop payloadPos).take d.message.length = d.message) :
    7 + d.completeSize c < 2 ^ 32 := by
  by_contra hlarge
  have hlength := congrArg List.length h
  have hle : (d.command c).length ≤ (UInt32.ofNat (7 + d.completeSize c)).toNat := List.length_take_le ..
  have hsized := d.sized
  have hheaded := d.headed
  rw [UInt32.toNat_ofNat'] at hle
  rw [List.length_take, List.length_drop, payloadPos] at hlength
  have hmod : (7 + d.completeSize c) % 2 ^ 32 ≤ 13 := by
    rw [completeSize] at hlarge ⊢
    split at hlarge <;> rename_i hc <;> simp only [hc, if_true, if_false] <;> omega
  omega

/-! ### What is read -/

section Reads

variable {data : List UInt8}

/-- The command, by what stands in it. -/
lemma reads (hdata : data = header c.toByte d.sender (UInt32.ofNat (d.completeSize c)) ++
      (d.message ++ d.trailer c)) :
    data.length = 7 + d.message.length + (d.trailer c).length ∧
    networkWord data payloadPos = .ok d.service ∧
    networkWord data (payloadPos + 8) = .ok d.clientFromHeader ∧
    byte data (payloadPos + 14) = .ok (d.message.getD 14 0) ∧
    word data (7 + d.message.length) = .ok d.instance_ ∧
    Command.bool data (7 + d.message.length + 3) = .ok d.reliable ∧
    Command.bool data (7 + d.message.length + 4) = .ok d.isValidCrc := by
  have hlength : data.length = 7 + d.message.length + (d.trailer c).length := by
    rw [hdata, List.length_append, List.length_append, length_header, Nat.add_assoc]
  have hheaded := d.headed
  have hpayload : data.drop payloadPos = d.message ++ d.trailer c := by rw [hdata, drop_header]
  have hget {i : ℕ} (hi : i < 16) : data.getD (payloadPos + i) 0 = d.message.getD i 0 :=
    getD_of_drop hpayload (hi.trans_le hheaded)
  have hword {i : ℕ} (hi : i + 1 < 16) : networkWord data (payloadPos + i) =
      .ok (bytesToWord (d.message.getD i 0) (d.message.getD (i + 1) 0)) := by
    rw [networkWord, hget (Nat.lt_of_succ_lt hi), Nat.add_assoc _ i 1, hget hi]
    exact guarded_of (by rw [payloadPos]; omega) _ _
  have htrailer (i : ℕ) : data.drop (7 + d.message.length + i) = (d.trailer c).drop i := by
    rw [← List.drop_drop, ← List.drop_drop]
    change ((data.drop payloadPos).drop _).drop i = _
    rw [hpayload, List.drop_left]
  refine ⟨hlength, hword (i := 0) (by decide), hword (i := 8) (by decide), ?_, ?_, ?_, ?_⟩
  · rw [byte, hget (by decide)]
    exact guarded_of (by rw [payloadPos]; omega) _ _
  · exact word_of_drop_ofWord (htrailer 0)
  · exact bool_of_drop (htrailer 3)
  · exact bool_of_drop (htrailer 4)

end Reads

/-! ### What is delivered -/

/-- The number in the size field of a command whose size fits into 32 bits. -/
lemma toNat_completeSize (h : 7 + d.completeSize c < 2 ^ 32) :
    (UInt32.ofNat (d.completeSize c)).toNat = (d.message ++ d.trailer c).length := by
  rw [UInt32.toNat_ofNat', Nat.mod_eq_of_lt (by omega), List.length_append, length_trailer,
    completeSize]
  omega

/-- A size is reduced by less than it has. -/
lemma reduced_completeSize {n : ℕ} (h : 7 + d.completeSize c < 2 ^ 32) (hn : n ≤ d.completeSize c) :
    reduced (UInt32.ofNat (d.completeSize c)) (UInt32.ofNat n) =
      .ok (UInt32.ofNat (d.completeSize c - n)) := by
  have hsize : (UInt32.ofNat (d.completeSize c)).toNat = d.completeSize c := by
    rw [UInt32.toNat_ofNat', Nat.mod_eq_of_lt (by omega)]
  have hreduced : (UInt32.ofNat n).toNat = n := by
    rw [UInt32.toNat_ofNat', Nat.mod_eq_of_lt (by omega)]
  have hle : UInt32.ofNat n ≤ UInt32.ofNat (d.completeSize c) := by
    rw [UInt32.le_iff_toNat_le, hsize, hreduced]
    exact hn
  rw [reduced, guarded_of hle]
  refine congrArg Except.ok (UInt32.toNat_inj.mp ?_)
  rw [UInt32.toNat_sub_of_le _ _ hle, hsize, hreduced, UInt32.toNat_ofNat', Nat.mod_eq_of_lt (by omega)]

/-- The size that the stub hands on with a message: one more than that of the message, but for a
SEND. -/
def handedOn (d : LocalData) : DataCommand → UInt32
  | .send => UInt32.ofNat d.message.length
  | .notify => UInt32.ofNat (d.message.length + 1)
  | .notifyOne => UInt32.ofNat (d.message.length + 1)

/-- What the stub makes of a command: the call with the size that is handed on. -/
def handedCall (d : LocalData) : DataCommand → StubCall
  | .send => .onMessage d.service d.instance_ (d.handedOn .send) d.reliable d.isValidCrc
  | .notify => .onNotification 0 d.service d.instance_ (d.handedOn .notify) false
  | .notifyOne => .onNotification d.targetClient d.service d.instance_ (d.handedOn .notifyOne) true

/-- The stub makes one call, with everything that was written but the size. -/
lemma onMessage_command {cfg : StubConfig} (h : 7 + d.completeSize c < 2 ^ 32)
    (hpasses : d.StubPasses c cfg) :
    StubCommand.onMessage cfg (d.command c) = .ok [d.handedCall c] := by
  rw [command_eq h, StubCommand.onMessage_header cfg (toNat_completeSize h).le, if_neg hpasses.1]
  generalize hdata : header c.toByte d.sender (UInt32.ofNat (d.completeSize c)) ++
    (d.message ++ d.trailer c) = data
  obtain ⟨hlength, hservice, hclient, htype, hinstance, hreliable, hcrc⟩ := reads hdata.symm
  rw [length_trailer] at hlength
  cases c with
  | send =>
    have hinstancePos : data.length - 2 - 1 - 1 - 1 = 7 + d.message.length := by
      rw [hlength]; rfl
    have hreliablePos : data.length - 1 - 1 = 7 + d.message.length + 3 := by rw [hlength]; rfl
    have hcrcPos : data.length - 1 = 7 + d.message.length + 4 := by rw [hlength]; rfl
    have hallowed : (if isRequest (d.message.getD 14 0) then
        cfg.isClientAllowed d.clientFromHeader d.service d.instance_
        else cfg.isClientAllowed cfg.client d.service d.instance_) = true :=
      (apply_ite (fun client => cfg.isClientAllowed client d.service d.instance_) _ _ _).symm.trans
        (hpasses.2 rfl)
    change StubCommand.send cfg data _ = _
    rw [StubCommand.send, hinstancePos, hreliablePos, hcrcPos, hservice, hclient, hinstance, hreliable,
      hcrc, htype]
    refine (if_pos hallowed).trans ?_
    rw [show (2 + 1 + 1 + 1 : UInt32) = UInt32.ofNat 5 from rfl,
      reduced_completeSize h (Nat.le_add_left 5 d.message.length)]
    rfl
  | notify =>
    have hinstancePos : data.length - 2 - 1 - 1 - 1 = 7 + d.message.length := by
      rw [hlength]; rfl
    change StubCommand.notify data _ = _
    rw [StubCommand.notify, hservice, hinstancePos, hinstance,
      show (2 + 1 + 1 : UInt32) = UInt32.ofNat 4 from rfl,
      reduced_completeSize h (Nat.le_add_left 4 (d.message.length + 1))]
    rfl
  | notifyOne =>
    have hinstancePos : data.length - 2 - 1 - 1 - 1 - 2 = 7 + d.message.length := by
      rw [hlength]; rfl
    have htarget : word data (data.length - 2) = .ok d.targetClient := by
      refine @word_of_drop_ofWord data [] _ _ ?_
      have hpos : data.length - 2 = payloadPos + (d.message.length + 5) := by rw [hlength]; rfl
      rw [hpos, ← List.drop_drop, ← hdata, drop_header, ← List.drop_drop, List.drop_left]
      rfl
    change StubCommand.notifyOne data _ = _
    rw [StubCommand.notifyOne, hservice, hinstancePos, hinstance, htarget,
      show (2 + 1 + 1 + 2 : UInt32) = UInt32.ofNat 6 from rfl,
      reduced_completeSize h (Nat.le_add_left 6 (d.message.length + 1))]
    rfl

/-- The message stands behind the header. -/
lemma take_command (h : 7 + d.completeSize c < 2 ^ 32) :
    ((d.command c).drop payloadPos).take d.message.length = d.message := by
  rw [command_eq h, drop_header, List.take_left]

/-- The proxy gives a message that was sent to the deserializer. -/
lemma proxy_onMessage_command {cfg : ProxyConfig} (h : 7 + d.completeSize .send < 2 ^ 32)
    (hpasses : d.ProxyPasses cfg) : ProxyCommand.onMessage cfg (d.command .send) =
      .ok [.onMessage d.message d.instance_ d.reliable d.isValidCrc] := by
  rw [command_eq h, ProxyCommand.onMessage_header, if_neg hpasses]
  generalize hdata : header DataCommand.send.toByte d.sender (UInt32.ofNat (d.completeSize .send)) ++
    (d.message ++ d.trailer .send) = data
  obtain ⟨hlength, -, -, -, hinstance, hreliable, hcrc⟩ := reads hdata.symm
  rw [length_trailer] at hlength
  have hinstancePos : data.length - 2 - 1 - 1 - 1 = 7 + d.message.length := by rw [hlength]; rfl
  have hreliablePos : data.length - 1 - 1 = 7 + d.message.length + 3 := by rw [hlength]; rfl
  have hcrcPos : data.length - 1 = 7 + d.message.length + 4 := by rw [hlength]; rfl
  have hsize : (UInt32.ofNat (d.completeSize .send - 5)).toNat = d.message.length := by
    rw [UInt32.toNat_ofNat']
    exact Nat.mod_eq_of_lt d.sized
  have hmessage : bytes data payloadPos d.message.length = .ok d.message := by
    rw [bytes, guarded_of (by rw [hlength, payloadPos]; omega), ← hdata, drop_header, List.take_left]
  change ProxyCommand.send data _ = _
  rw [ProxyCommand.send, hinstancePos, hreliablePos, hcrcPos, hinstance, hreliable, hcrc,
    show (2 + 1 + 1 + 1 : UInt32) = UInt32.ofNat 5 from rfl,
    reduced_completeSize h (Nat.le_add_left 5 d.message.length)]
  change bytes data payloadPos (UInt32.ofNat (d.completeSize .send - 5)).toNat >>= _ = _
  rw [hsize, hmessage]
  rfl

/-- A proxy makes no call for a SEND whose size does not fit into 32 bits. -/
lemma proxy_onMessage_large {cfg : ProxyConfig} {calls : List ProxyCall}
    (h : 2 ^ 32 ≤ 7 + d.completeSize .send)
    (hcalls : ProxyCommand.onMessage cfg (d.command .send) = .ok calls) : calls = [] := by
  have hsized := d.sized
  have hcomplete : d.completeSize .send = d.message.length + 5 := rfl
  have hmod : (7 + d.completeSize .send) % 2 ^ 32 = d.message.length + 12 - 2 ^ 32 := by
    rw [hcomplete]
    omega
  rw [command, UInt32.toNat_ofNat', hmod] at hcalls
  by_cases hheader : d.message.length + 12 - 2 ^ 32 < 7
  · exact ProxyCommand.onMessage_short ((List.length_take_le ..).trans_lt hheader) hcalls
  · -- the whole header is there, but the size in it is less than the five bytes behind a message
    rw [List.take_append, length_header, List.take_of_length_le (by rw [length_header]; omega),
      ProxyCommand.onMessage_header] at hcalls
    split at hcalls
    · cases hcalls
      rfl
    · obtain ⟨instance_, -, hcalls⟩ := bind_eq_ok_iff.mp hcalls
      obtain ⟨reliable, -, hcalls⟩ := bind_eq_ok_iff.mp hcalls
      obtain ⟨isValidCrc, -, hcalls⟩ := bind_eq_ok_iff.mp hcalls
      obtain ⟨messageSize, hreduced, -⟩ := bind_eq_ok_iff.mp hcalls
      have hle := (guarded_eq_ok_iff.mp hreduced).1
      rw [UInt32.le_iff_toNat_le, UInt32.toNat_ofNat', hcomplete] at hle
      have hfive : (2 + 1 + 1 + 1 : UInt32).toNat = 5 := rfl
      omega

/-- What a proxy takes out of a SEND has the flag that was written. -/
lemma flag_of_proxy_onMessage {cfg : ProxyConfig} {calls : List ProxyCall} {message : List UInt8}
    {instance_ : UInt16} {reliable flag : Bool}
    (hcalls : ProxyCommand.onMessage cfg (d.command .send) = .ok calls)
    (hmem : .onMessage message instance_ reliable flag ∈ calls) : flag = d.isValidCrc := by
  rcases Nat.lt_or_ge (7 + d.completeSize .send) (2 ^ 32) with hsize | hsize
  · by_cases hpasses : d.ProxyPasses cfg
    · rw [proxy_onMessage_command hsize hpasses, Except.ok.injEq] at hcalls
      rw [← hcalls, List.mem_singleton, ProxyCall.onMessage.injEq] at hmem
      exact hmem.2.2.2
    · rw [command_eq hsize, ProxyCommand.onMessage_header, if_pos (not_not.mp hpasses)] at hcalls
      cases hcalls
      cases hmem
  · rw [proxy_onMessage_large hsize hcalls] at hmem
    cases hmem

/-- There is a proxy that does not skip the command. -/
lemma exists_proxyPasses (d : LocalData) : ∃ cfg, d.ProxyPasses cfg :=
  ⟨⟨false, 0, 0⟩, by simp [ProxyPasses]⟩

/-- A size that is one too large is not that of the message. -/
lemma handedOn_ne : UInt32.ofNat (d.message.length + 1) ≠ UInt32.ofNat d.message.length := by
  intro h
  have htoNat := congrArg UInt32.toNat h
  have hsized := d.sized
  rw [UInt32.toNat_ofNat', UInt32.toNat_ofNat'] at htoNat
  omega

/-- There is a stub that does not skip the command. -/
lemma exists_stubPasses (d : LocalData) (c : DataCommand) : ∃ cfg, d.StubPasses c cfg :=
  ⟨⟨false, fun _ _ _ => true, fun _ _ => true, 0, 0⟩, by simp, fun _ => rfl⟩

/-- What is delivered was sent, and fits into a command. -/
lemma Delivered.isSend (h : d.Delivered c) : c = .send ∧ d.message.length + 12 < 2 ^ 32 := by
  obtain ⟨cfg, hpasses⟩ := d.exists_stubPasses c
  obtain ⟨hcalls, hmessage⟩ := h.1 cfg hpasses
  have hsize := completeSize_lt hmessage
  rw [onMessage_command hsize hpasses, Except.ok.injEq, List.cons.injEq] at hcalls
  cases c with
  | send =>
    change 7 + (d.message.length + 5) < 2 ^ 32 at hsize
    exact ⟨rfl, by omega⟩
  | notify =>
    injection hcalls.1 with _ _ _ hhanded
    exact absurd hhanded handedOn_ne
  | notifyOne =>
    injection hcalls.1 with _ _ _ hhanded
    exact absurd hhanded handedOn_ne

/-- **A command with a message is delivered** exactly if it is a SEND whose size fits into 32 bits. -/
theorem delivered_iff (d : LocalData) (c : DataCommand) :
    d.Delivered c ↔ c = .send ∧ d.message.length + 12 < 2 ^ 32 := by
  refine ⟨Delivered.isSend, ?_⟩
  rintro ⟨rfl, hlength⟩
  have hsize : 7 + d.completeSize .send < 2 ^ 32 := by
    change 7 + (d.message.length + 5) < 2 ^ 32
    omega
  exact ⟨fun cfg hpasses => ⟨onMessage_command hsize hpasses, take_command hsize⟩,
    fun _ cfg hpasses => proxy_onMessage_command hsize hpasses⟩

/-- **A NOTIFY that is not delivered**: of a message without payload the stub hands on 17 bytes. -/
theorem not_delivered_notify : ¬ ∀ (d : LocalData) (c : DataCommand), d.Delivered c := by
  intro h
  have hnotify := h ⟨0x1234, 0, [0x11, 0x11, 0x80, 0x01, 0, 0, 0, 8, 0, 0, 0, 0, 1, 0, 2, 0], 1, true,
    false, true, by decide, by decide⟩ .notify
  exact absurd hnotify.isSend.1 (by decide)

end LocalData

end Vsomeip
