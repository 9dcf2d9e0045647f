import Vsomeip.Configuration.MessageSizes
import Vsomeip.Routing.RoutingInfo

set_option relaxedAutoImplicit false
set_option autoImplicit false

/-!
# The bytes of a routing info

The routing manager writes a ROUTING_INFO for an application entry by entry
(`insert_client_routing_info`), and fills in the size of each entry and that of the command when it is
known. The application reads it with nested loops (`on_routing_info`) and updates its tables on the
way. It should perform the updates for the entries that were inserted, in this order, and read the
command to its end.

The size of a command has 32 bits. The check against the largest size is switched off when local
messages are unlimited by default, so that a command of more bytes is cut off, and the application
reads only some of its entries.

## Main definitions

* `Vsomeip.RoutingInfoWriter` — the commands that are being written, as bytes.
* `Vsomeip.RoutingInfoWriter.insertClientRoutingInfo`,
  `Vsomeip.RoutingInfoWriter.sendClientRoutingInfo` — the functions of the stub.
* `Vsomeip.RoutingInfoEntry.updates` — what a proxy does for an entry.
* `Vsomeip.Conveyed` — a proxy does what was inserted.

## Main results

* `Vsomeip.RoutingInfoWriter.Encodes.insertClientRoutingInfo` — the bytes are those of the entries that
  `RoutingManagerStub` keeps.
* `Vsomeip.RoutingInfoWriter.conveyed_iff` — a proxy does what was inserted exactly if the command is
  shorter than 2^32 bytes.
-/

namespace Vsomeip

open Checked Command

/-! ## Writing -/

/-- The type of an entry as a number. -/
def RoutingInfoEntryType.toLong : RoutingInfoEntryType → UInt32
  | .addClient => 0
  | .addServiceInstance => 1
  | .delServiceInstance => 2
  | .delClient => 3
  | .other => 4

/-- The arguments of `insert_client_routing_info`. -/
structure RoutingInfoCall where
  entry : RoutingInfoEntryType
  client : UInt16
  service : UInt16
  instance_ : UInt16
  version : Version
  known : entry ≠ .other

namespace RoutingInfoCall

/-- The entry is about a service instance. -/
def IsService (c : RoutingInfoCall) : Prop :=
  c.entry = .addServiceInstance ∨ c.entry = .delServiceInstance

instance (c : RoutingInfoCall) : Decidable c.IsService :=
  inferInstanceAs (Decidable (_ ∨ _))

/-- What the entry says. -/
def toEntry (c : RoutingInfoCall) : RoutingInfoEntry where
  type := c.entry
  client := c.client
  services :=
    if c.IsService then [⟨c.service, c.instance_, c.version.major, c.version.minor⟩] else []

/-- The bytes of the service instance. -/
def serviceBytes (c : RoutingInfoCall) : List UInt8 :=
  ofLong 9 ++ (ofWord c.service ++ (ofWord c.instance_ ++ (c.version.major ::
    ofLong c.version.minor)))

/-- The bytes behind the size of the entry. -/
def content (c : RoutingInfoCall) : List UInt8 :=
  ofWord c.client ++ if c.IsService then c.serviceBytes else []

/-- The bytes of the entry. -/
def bytes (c : RoutingInfoCall) : List UInt8 :=
  ofLong c.entry.toLong ++ (ofLong (UInt32.ofNat c.content.length) ++ c.content)

end RoutingInfoCall

/-- `memcpy` of some bytes to a position of a command. -/
def memcpyAt (command : List UInt8) (pos : ℕ) (bytes : List UInt8) : List UInt8 :=
  command.take pos ++ (bytes ++ command.drop (pos + bytes.length))

/-- The members of the stub that are about the commands that are being written. -/
structure RoutingInfoWriter where
  client : UInt16
  clientRoutingInfo : UInt16 → Option (List UInt8)
  connectionMatrix : UInt16 → Finset UInt16

namespace RoutingInfoWriter

/-- `create_client_routing_info`. -/
def createClientRoutingInfo (w : RoutingInfoWriter) (target : UInt16) : RoutingInfoWriter :=
  { w with
    clientRoutingInfo := Function.update w.clientRoutingInfo target
      (some (0x03 :: (ofWord w.client ++ [0, 0, 0, 0]))) }

/-- What `insert_client_routing_info` makes of a command. -/
def insertEntry (command : List UInt8) (c : RoutingInfoCall) : List UInt8 :=
  let command := command ++ ofLong c.entry.toLong
  let sizePos := command.length
  let command := command ++ [0, 0, 0, 0] ++ ofWord c.client
  let command := if c.IsService then
      command ++ ofLong 9 ++ ofWord c.service ++ ofWord c.instance_ ++ [c.version.major] ++
        ofLong c.version.minor
    else command
  memcpyAt command sizePos (ofLong (UInt32.ofNat (command.length - sizePos - 4)))

/-- `insert_client_routing_info`. -/
def insertClientRoutingInfo (target : UInt16) (w : RoutingInfoWriter) (c : RoutingInfoCall) :
    RoutingInfoWriter :=
  match w.clientRoutingInfo target with
  | none => w
  | some command =>
    { w with
      connectionMatrix := Function.update w.connectionMatrix target
        (insert c.client (w.connectionMatrix target))
      clientRoutingInfo := Function.update w.clientRoutingInfo target
        (some (insertEntry command c)) }

/-- The size is filled in, and the size of the whole is handed on in 32 bits. -/
def finish (command : List UInt8) : List UInt8 :=
  (memcpyAt command 3 (ofLong (UInt32.ofNat (command.length - payloadPos)))).take
    (UInt32.ofNat command.length).toNat

/-- `send_client_routing_info`, with what is handed to the endpoint of the target. -/
def sendClientRoutingInfo (w : RoutingInfoWriter) (hasEndpoint : Bool) (maxLocalMessageSize : UInt32)
    (target : UInt16) : Option (List UInt8) × RoutingInfoWriter :=
  match w.clientRoutingInfo target with
  | none => (none, w)
  | some command =>
    if hasEndpoint then
      (if command.length ≤ maxLocalMessageSize.toNat ∨ vsomeipMaxLocalMessageSize = 0 then
        some (finish command) else none,
        { w with clientRoutingInfo := Function.update w.clientRoutingInfo target none })
    else (none, w)

/-- A command is created, and entries are inserted. -/
def write (w : RoutingInfoWriter) (target : UInt16) (calls : List RoutingInfoCall) :
    RoutingInfoWriter :=
  calls.foldl (insertClientRoutingInfo target) (w.createClientRoutingInfo target)

end RoutingInfoWriter

/-! ## Reading -/

/-- What `on_routing_info` does to the tables of a proxy, and what it calls. -/
inductive ProxyUpdate
  | insertKnownClient (client : UInt16)
  | eraseKnownClient (client : UInt16)
  | registered
  | deregistered
  | removeLocal (client : UInt16)
  | setLocalService (service instance_ : UInt16) (version : Version) (client : UInt16)
  | eraseLocalService (service instance_ : UInt16)
  | sendPendingSubscriptions (service instance_ : UInt16) (major : UInt8)
  | onStopOfferService (service instance_ : UInt16) (version : Version)
  | onAvailability (service instance_ : UInt16) (isAvailable : Bool) (version : Version)
deriving DecidableEq

/-- The body of the loops of `on_routing_info`: what the proxy of client `own` does for an entry. -/
def RoutingInfoEntry.updates (own : UInt16) (e : RoutingInfoEntry) : List ProxyUpdate :=
  match e.type with
  | .addClient => .insertKnownClient e.client :: if e.client = own then [.registered] else []
  | .delClient => .eraseKnownClient e.client ::
      if e.client = own then [.deregistered]
      else if e.client ≠ routingClient then [.removeLocal e.client] else []
  | .addServiceInstance => e.services.flatMap fun x =>
      [.insertKnownClient e.client, .setLocalService x.service x.instance_ ⟨x.major, x.minor⟩ e.client,
        .sendPendingSubscriptions x.service x.instance_ x.major,
        .onAvailability x.service x.instance_ true ⟨x.major, x.minor⟩]
  | .delServiceInstance => e.services.flatMap fun x =>
      [.eraseLocalService x.service x.instance_,
        .onStopOfferService x.service x.instance_ ⟨x.major, x.minor⟩,
        .onAvailability x.service x.instance_ false ⟨x.major, x.minor⟩]
  | .other => []

namespace ProxyCommand

variable (payload : List UInt8)

/-- Where the loop of `on_routing_info` stops, from `i` on. -/
def endRoutingInfo : ℕ → ℕ → Except Fault ℕ
  | 0, _ => .error .endless
  | fuel + 1, i =>
    if i + 4 + 4 ≤ payload.length then do
      let clientSize ← long payload (i + 4)
      let sum ← lengthSum clientSize (i + 8)
      if sum > payload.length then pure (i + 8)
      else if i + 8 + 2 ≤ payload.length then do
        let (_, j) ← readServices payload clientSize (i + 10) (payload.length + 1) 0
        endRoutingInfo fuel (i + 10 + j)
      else endRoutingInfo fuel (i + 8)
    else pure i

end ProxyCommand

/-- The payload of a command, as long as the size in its header says. -/
def readPayload (command : List UInt8) : Except Fault (List UInt8) := do
  let size ← long command 3
  bytes command payloadPos size.toNat

/-- A proxy performs the updates for the calls in their order, and reads the command to its end. -/
def Conveyed (calls : List RoutingInfoCall) (command : List UInt8) : Prop :=
  ∃ payload entries, readPayload command = .ok payload ∧
    ProxyCommand.onRoutingInfo payload = .ok entries ∧
    (∀ own, entries.flatMap (RoutingInfoEntry.updates own) =
      calls.flatMap fun c => c.toEntry.updates own) ∧
    ProxyCommand.endRoutingInfo payload (payload.length + 1) 0 = .ok payload.length

/-! ## What is written -/

namespace RoutingInfoCall

variable (c : RoutingInfoCall)

/-- The type of an entry is read back. -/
lemma ofLong_toLong : RoutingInfoEntryType.ofLong c.entry.toLong = c.entry := by
  have hknown := c.known
  cases hentry : c.entry with
  | other => exact absurd hentry hknown
  | addClient | addServiceInstance | delServiceInstance | delClient => rfl

/-- The length of an entry. -/
lemma length_content : c.content.length = if c.IsService then 15 else 2 := by
  unfold content
  split_ifs <;> rfl

/-- The length of an entry with its header. -/
lemma length_bytes : c.bytes.length = 8 + c.content.length := by
  simp only [bytes, List.length_append, length_ofLong]
  omega

/-- An entry is written with its size. -/
lemma length_bytes_eq_size : c.bytes.length = c.toEntry.size := by
  rw [length_bytes, length_content, RoutingInfoEntry.size, toEntry]
  split_ifs <;> rfl

/-- The length of an entry has 32 bits. -/
lemma toNat_length_content : (UInt32.ofNat c.content.length).toNat = c.content.length := by
  rw [length_content]
  split_ifs <;> rfl

/-- Every call has an update. -/
lemma updates_ne_nil (own : UInt16) : c.toEntry.updates own ≠ [] := by
  obtain ⟨entry, client, service, instance_, version, hknown⟩ := c
  cases entry with
  | other => exact absurd rfl hknown
  | addClient | delClient => exact List.cons_ne_nil _ _
  | addServiceInstance | delServiceInstance => exact List.cons_ne_nil _ _

end RoutingInfoCall

/-- Overwriting the middle of a buffer. -/
lemma memcpyAt_append (before old after new : List UInt8) (h : old.length = new.length) :
    memcpyAt (before ++ (old ++ after)) before.length new = before ++ (new ++ after) := by
  rw [memcpyAt, List.take_left, ← List.drop_drop, List.drop_left, ← h, List.drop_left]

namespace RoutingInfoWriter

variable (w : RoutingInfoWriter) {target : UInt16}

/-- What stands behind the type of an entry before its size is filled in. -/
lemma placeholder_append (command : List UInt8) (c : RoutingInfoCall) :
    (if c.IsService then
      command ++ [0, 0, 0, 0] ++ ofWord c.client ++ ofLong 9 ++ ofWord c.service ++
        ofWord c.instance_ ++ [c.version.major] ++ ofLong c.version.minor
    else command ++ [0, 0, 0, 0] ++ ofWord c.client) = command ++ ([0, 0, 0, 0] ++ c.content) := by
  unfold RoutingInfoCall.content RoutingInfoCall.serviceBytes
  split_ifs <;> simp only [List.append_assoc, List.cons_append, List.nil_append, List.append_nil]

/-- An entry is appended with its size. -/
lemma insertEntry_eq (command : List UInt8) (c : RoutingInfoCall) :
    insertEntry command c = command ++ c.bytes := by
  have hsize (typed : List UInt8) : (typed ++ ([0, 0, 0, 0] ++ c.content)).length - typed.length - 4 =
      c.content.length := by
    rw [List.length_append, Nat.add_sub_cancel_left, List.length_append]
    exact Nat.add_sub_cancel_left 4 _
  unfold insertEntry
  dsimp only
  rw [placeholder_append, hsize, memcpyAt_append _ [0, 0, 0, 0] _ (ofLong _) rfl,
    List.append_assoc]
  rfl

/-- An entry is appended to a command that is begun. -/
lemma insertClientRoutingInfo_of_some {command : List UInt8} (c : RoutingInfoCall)
    (h : w.clientRoutingInfo target = some command) :
    (w.insertClientRoutingInfo target c).clientRoutingInfo target = some (command ++ c.bytes) ∧
      (w.insertClientRoutingInfo target c).client = w.client := by
  unfold insertClientRoutingInfo
  rw [h, ← insertEntry_eq]
  exact ⟨Function.update_self _ _ _, rfl⟩

/-- The entries stand behind each other. -/
lemma foldl_insertClientRoutingInfo (calls : List RoutingInfoCall) {command : List UInt8}
    (h : w.clientRoutingInfo target = some command) :
    (calls.foldl (insertClientRoutingInfo target) w).clientRoutingInfo target =
      some (command ++ calls.flatMap RoutingInfoCall.bytes) := by
  induction calls generalizing w command with
  | nil => rw [List.flatMap_nil, List.append_nil, ← h, List.foldl_nil]
  | cons c calls ih =>
    rw [List.foldl_cons, ih _ (w.insertClientRoutingInfo_of_some c h).1, List.flatMap_cons,
      List.append_assoc]

/-- The command after some entries are written. -/
lemma write_clientRoutingInfo (target : UInt16) (calls : List RoutingInfoCall) :
    (w.write target calls).clientRoutingInfo target =
      some (header 0x03 w.client 0 ++ calls.flatMap RoutingInfoCall.bytes) :=
  foldl_insertClientRoutingInfo _ calls (Function.update_self _ _ _)

/-- The command that is sent. -/
lemma finish_eq (client : UInt16) (payload : List UInt8) :
    finish (header 0x03 client 0 ++ payload) =
      (header 0x03 client (UInt32.ofNat payload.length) ++ payload).take
        (UInt32.ofNat (7 + payload.length)).toNat := by
  have hlength : (header 0x03 client 0 ++ payload).length = 7 + payload.length := by
    rw [List.length_append, length_header]
  have hpatch : memcpyAt (header 0x03 client 0 ++ payload) 3 (ofLong (UInt32.ofNat payload.length)) =
      header 0x03 client (UInt32.ofNat payload.length) ++ payload :=
    memcpyAt_append (0x03 :: ofWord client) (ofLong 0) payload (ofLong _) rfl
  rw [finish, hlength, payloadPos, Nat.add_sub_cancel_left, hpatch]

/-- The size of the command with all entries. -/
lemma commandSize_eq (calls : List RoutingInfoCall) :
    RoutingInfoEntry.commandSize (calls.map RoutingInfoCall.toEntry) =
      7 + (calls.flatMap RoutingInfoCall.bytes).length := by
  rw [RoutingInfoEntry.commandSize, List.length_flatMap, List.map_map]
  exact congrArg (7 + List.sum ·) (List.map_congr_left fun c _ => c.length_bytes_eq_size.symm)

end RoutingInfoWriter

/-! ## What is read -/

namespace ProxyCommand

variable {payload rest : List UInt8} {i fuel : ℕ} {c : RoutingInfoCall}

/-- What is left of a payload behind a part of it. -/
lemma drop_add {before : List UInt8} (h : payload.drop i = before ++ rest) :
    payload.drop (i + before.length) = rest := by
  rw [← List.drop_drop, h, List.drop_left]

/-- The service instance of an entry is read. -/
lemma readServices_content (h : payload.drop i = ofWord c.client ++
      ((if c.IsService then c.serviceBytes else []) ++ rest)) (hfuel : 2 ≤ fuel) :
    readServices payload (UInt32.ofNat c.content.length) (i + 2) fuel 0 =
      .ok (c.toEntry.services, c.content.length - 2) := by
  obtain ⟨fuel, rfl⟩ := Nat.exists_eq_add_of_le' hfuel
  have hservices := drop_add h
  rw [length_ofWord] at hservices
  rw [readServices, c.toNat_length_content, c.length_content, RoutingInfoCall.toEntry]
  by_cases hservice : c.IsService
  · rw [if_pos hservice] at hservices
    rw [if_pos hservice, if_pos hservice, if_pos (by omega)]
    unfold RoutingInfoCall.serviceBytes at hservices
    simp only [List.append_assoc, List.cons_append] at hservices
    have hid := drop_add hservices
    have hinstance := drop_add hid
    have hmajor := drop_add hinstance
    have hminor : payload.drop (i + 2 + 4 + 2 + 2 + 1) = ofLong c.version.minor ++ rest :=
      @drop_add payload _ _ [c.version.major] hmajor
    have hsize : long payload (i + 2 + 0) = .ok 9 := long_of_drop hservices
    have hword : word payload (i + 2 + (0 + 4)) = .ok c.service := word_of_drop_ofWord hid
    have hinstances : readInstances payload c.service 1 (i + 2 + (0 + 6)) =
        .ok [⟨c.service, c.instance_, c.version.major, c.version.minor⟩] := by
      have hword' : word payload (i + 2 + (0 + 6)) = .ok c.instance_ := word_of_drop_ofWord hinstance
      have hbyte : byte payload (i + 2 + (0 + 6) + 2) = .ok c.version.major := byte_of_drop hmajor
      have hlong : long payload (i + 2 + (0 + 6) + 3) = .ok c.version.minor := long_of_drop hminor
      rw [readInstances]
      exact bind_eq_ok_iff.mpr ⟨_, hword', bind_eq_ok_iff.mpr ⟨_, hbyte, bind_eq_ok_iff.mpr
        ⟨_, hlong, rfl⟩⟩⟩
    have hend : readServices payload (UInt32.ofNat 15) (i + 2) (fuel + 1) 13 = .ok ([], 13) :=
      if_neg (by decide)
    refine bind_eq_ok_iff.mpr ⟨_, hsize, ?_⟩
    rw [if_pos (by decide)]
    exact bind_eq_ok_iff.mpr ⟨_, hword, bind_eq_ok_iff.mpr ⟨_, hinstances, bind_eq_ok_iff.mpr
      ⟨_, hend, rfl⟩⟩⟩
  · rw [if_neg hservice, if_neg hservice, if_neg (by omega)]
    rfl

/-- The fixed part of an entry is read. -/
lemma reads_entry (h : payload.drop i = c.bytes ++ rest) :
    long payload i = .ok c.entry.toLong ∧ long payload (i + 4) = .ok (UInt32.ofNat c.content.length) ∧
      word payload (i + 8) = .ok c.client ∧ payload.drop (i + 8) = ofWord c.client ++
        ((if c.IsService then c.serviceBytes else []) ++ rest) ∧
      i + c.bytes.length ≤ payload.length := by
  have hlength := length_of_drop h (by simp [RoutingInfoCall.bytes, ofLong])
  unfold RoutingInfoCall.bytes RoutingInfoCall.content at h
  simp only [List.append_assoc] at h
  have hsize := drop_add h
  have hcontent := drop_add hsize
  exact ⟨long_of_drop h, long_of_drop hsize, word_of_drop_ofWord hcontent, hcontent, hlength⟩

/-- A round of the loop reads an entry. -/
lemma readRoutingInfo_entry (h : payload.drop i = c.bytes ++ rest) (hsize : payload.length < 2 ^ 32) :
    readRoutingInfo payload (fuel + 1) i = (do
      let rest ← readRoutingInfo payload fuel (i + c.bytes.length)
      pure (c.toEntry :: rest)) ∧
    endRoutingInfo payload (fuel + 1) i = endRoutingInfo payload fuel (i + c.bytes.length) := by
  obtain ⟨htype, hclientSize, hclient, hcontent, hlength⟩ := reads_entry h
  have hbytes := c.length_bytes
  have hle : 2 ≤ c.content.length := by
    rw [c.length_content]
    split_ifs <;> omega
  have hservices := readServices_content hcontent (Nat.le_add_left 2 (payload.length - 1))
  have hfuel : payload.length - 1 + 2 = payload.length + 1 := by omega
  have hnext : i + 10 + (c.content.length - 2) = i + c.bytes.length := by omega
  have hsum : lengthSum (UInt32.ofNat c.content.length) (i + 8) = .ok (c.content.length + (i + 8)) := by
    rw [lengthSum, c.toNat_length_content]
    exact guarded_of (by omega) _ _
  rw [hfuel] at hservices
  constructor
  · rw [readRoutingInfo, if_pos (by omega), htype, ok_bind, hclientSize, ok_bind, hsum, ok_bind,
      if_neg (by omega), if_pos (by omega), hclient, ok_bind, hservices, ok_bind]
    dsimp only
    rw [hnext, c.ofLong_toLong]
    rfl
  · rw [endRoutingInfo, if_pos (by omega), hclientSize, ok_bind, hsum, ok_bind, if_neg (by omega),
      if_pos (by omega), hservices, ok_bind]
    dsimp only
    rw [hnext]

/-- All entries of a command are read, and the command to its end. -/
lemma readRoutingInfo_complete {calls : List RoutingInfoCall}
    (h : payload.drop i = calls.flatMap RoutingInfoCall.bytes) (hi : i ≤ payload.length)
    (hsize : payload.length < 2 ^ 32) (hfuel : payload.length - i < fuel) :
    readRoutingInfo payload fuel i = .ok (calls.map RoutingInfoCall.toEntry) ∧
      endRoutingInfo payload fuel i = .ok payload.length := by
  induction calls generalizing i fuel with
  | nil =>
    obtain ⟨fuel, rfl⟩ := Nat.exists_eq_add_one_of_ne_zero (Nat.ne_zero_of_lt hfuel)
    have hend : i = payload.length := le_antisymm hi (List.drop_eq_nil_iff.mp h)
    rw [readRoutingInfo, endRoutingInfo, if_neg (by omega), if_neg (by omega), hend]
    exact ⟨rfl, rfl⟩
  | cons c calls ih =>
    obtain ⟨fuel, rfl⟩ := Nat.exists_eq_add_one_of_ne_zero (Nat.ne_zero_of_lt hfuel)
    rw [List.flatMap_cons] at h
    have hlength := (reads_entry h).2.2.2.2
    have hpos := c.length_bytes
    obtain ⟨hentries, hend⟩ := @ih (i + c.bytes.length) fuel (drop_add h) hlength (by omega)
    obtain ⟨hread, hread'⟩ := readRoutingInfo_entry h hsize
    rw [hread, hread', hentries, hend]
    exact ⟨rfl, rfl⟩

/-- An entry that is cut off is not read. -/
lemma readRoutingInfo_partial {n : ℕ} {entries : List RoutingInfoEntry}
    (h : payload.drop i = c.bytes.take n) (hn : n < c.bytes.length)
    (hread : readRoutingInfo payload (fuel + 1) i = .ok entries) : entries = [] := by
  have hlength := congrArg List.length h
  rw [List.length_drop, List.length_take_of_le hn.le] at hlength
  have hbytes := c.length_bytes
  rw [readRoutingInfo] at hread
  by_cases hheader : i + 4 + 4 ≤ payload.length
  · have htake : payload.drop i = ofLong c.entry.toLong ++ (ofLong (UInt32.ofNat c.content.length) ++
        c.content.take (n - 8)) := by
      rw [h, RoutingInfoCall.bytes, List.take_append, List.take_append, length_ofLong, length_ofLong,
        List.take_of_length_le (by rw [length_ofLong]; omega),
        List.take_of_length_le (by rw [length_ofLong]; omega)]
      rfl
    have hclientSize := long_of_drop (drop_add htake)
    rw [if_pos hheader, long_of_drop htake, ok_bind] at hread
    obtain ⟨clientSize, hclientSize', hread⟩ := bind_eq_ok_iff.mp hread
    obtain rfl := Except.ok.inj (hclientSize.symm.trans hclientSize')
    obtain ⟨sum, hsum, hread⟩ := bind_eq_ok_iff.mp hread
    obtain ⟨-, rfl⟩ := guarded_eq_ok_iff.mp hsum
    rw [c.toNat_length_content, if_pos (by omega)] at hread
    exact (Except.ok.inj hread).symm
  · rw [if_neg hheader] at hread
    exact (Except.ok.inj hread).symm

/-- Of a command that is cut off only the entries are read that are complete. -/
lemma readRoutingInfo_truncated {calls : List RoutingInfoCall} {n : ℕ} {entries : List RoutingInfoEntry}
    (h : payload.drop i = (calls.flatMap RoutingInfoCall.bytes).take n)
    (hn : n < (calls.flatMap RoutingInfoCall.bytes).length) (hsize : payload.length < 2 ^ 32)
    (hread : readRoutingInfo payload fuel i = .ok entries) :
    ∃ k < calls.length, entries = (calls.take k).map RoutingInfoCall.toEntry := by
  induction calls generalizing i fuel n entries with
  | nil => exact absurd hn (Nat.not_lt_zero _)
  | cons c calls ih =>
    cases fuel with
    | zero => exact absurd hread nofun
    | succ fuel =>
      rw [List.flatMap_cons] at h hn
      rw [List.take_append] at h
      rw [List.length_append] at hn
      by_cases hentry : c.bytes.length ≤ n
      · rw [List.take_of_length_le hentry] at h
        rw [(readRoutingInfo_entry h hsize).1] at hread
        obtain ⟨rest, hrest, hread⟩ := bind_eq_ok_iff.mp hread
        obtain ⟨k, hk, rfl⟩ := ih (drop_add h) (by omega) hrest
        exact ⟨k + 1, Nat.succ_lt_succ hk, (Except.ok.inj hread).symm⟩
      · rw [Nat.sub_eq_zero_of_le (Nat.le_of_not_le hentry), List.take_zero, List.append_nil] at h
        exact ⟨0, Nat.zero_lt_succ _, readRoutingInfo_partial h (Nat.lt_of_not_le hentry) hread⟩

end ProxyCommand

/-! ## From the stub to the proxy -/

namespace RoutingInfoWriter

variable (w : RoutingInfoWriter) (target : UInt16) {calls : List RoutingInfoCall} {command : List UInt8}

/-- What is handed to the endpoint of the target. -/
lemma sent_eq (maxLocalMessageSize : UInt32) (calls : List RoutingInfoCall) :
    ((w.write target calls).sendClientRoutingInfo true maxLocalMessageSize target).1 =
      some ((header 0x03 w.client (UInt32.ofNat (calls.flatMap RoutingInfoCall.bytes).length) ++
        calls.flatMap RoutingInfoCall.bytes).take
          (UInt32.ofNat (7 + (calls.flatMap RoutingInfoCall.bytes).length)).toNat) := by
  rw [← finish_eq, sendClientRoutingInfo, w.write_clientRoutingInfo]
  exact if_pos (Or.inr rfl)

/-- A command that is not cut off. -/
lemma conveyed_of_lt (h : 7 + (calls.flatMap RoutingInfoCall.bytes).length < 2 ^ 32)
    (client : UInt16) : Conveyed calls (header 0x03 client (UInt32.ofNat
      (calls.flatMap RoutingInfoCall.bytes).length) ++ calls.flatMap RoutingInfoCall.bytes) := by
  generalize hpayload : calls.flatMap RoutingInfoCall.bytes = payload at h ⊢
  have hsize : (UInt32.ofNat payload.length).toNat = payload.length := by
    rw [UInt32.toNat_ofNat']
    exact Nat.mod_eq_of_lt (by omega)
  obtain ⟨hlength, -, -, hlong⟩ := reads_header 0x03 client (UInt32.ofNat payload.length) payload
  obtain ⟨hread, hend⟩ := @ProxyCommand.readRoutingInfo_complete payload 0 (payload.length + 1) calls
    hpayload.symm (Nat.zero_le _) (by omega) (by omega)
  refine ⟨payload, _, ?_, hread, fun own => List.flatMap_map _ _ _, hend⟩
  rw [readPayload, hlong, ok_bind, hsize, bytes, guarded_of (by rw [hlength, payloadPos]; omega),
    drop_header, List.take_length]

/-- A command that is cut off is read in part. -/
lemma not_conveyed_take {before payload : List UInt8} {n : ℕ} (hbefore : before.length = 7)
    (hpayload : payload = calls.flatMap RoutingInfoCall.bytes) (hn : n < 7 + payload.length)
    (hsize : n < 2 ^ 32) : ¬ Conveyed calls ((before ++ payload).take n) := by
  rintro ⟨read, entries, hread, hentries, hupdates, -⟩
  obtain ⟨size, hlong, hbytes⟩ := bind_eq_ok_iff.mp hread
  obtain ⟨hlength, -⟩ := guarded_eq_ok_iff.mp hlong
  obtain ⟨-, rfl⟩ := guarded_eq_ok_iff.mp hbytes
  rw [List.length_take, List.length_append, hbefore] at hlength
  have hdrop : (((before ++ payload).take n).drop payloadPos).take size.toNat =
      payload.take (min size.toNat (n - 7)) := by
    rw [List.drop_take, payloadPos, ← hbefore, List.drop_left, List.take_take]
  rw [hdrop] at hentries
  subst hpayload
  have hlt : min size.toNat (n - 7) < (calls.flatMap RoutingInfoCall.bytes).length :=
    (Nat.min_le_right _ _).trans_lt (by omega)
  obtain ⟨k, hk, rfl⟩ := ProxyCommand.readRoutingInfo_truncated rfl hlt
    (by rw [List.length_take_of_le hlt.le]; omega) hentries
  -- an entry is missing, and so are its updates
  have hmissing := hupdates 0
  rw [List.flatMap_map] at hmissing
  conv_rhs at hmissing => rw [← List.take_append_drop k calls, List.flatMap_append]
  have hnil := List.self_eq_append_right.mp hmissing
  have hmem := List.getElem_mem (l := calls.drop k) (n := 0) (by rw [List.length_drop]; omega)
  exact RoutingInfoCall.updates_ne_nil _ 0 (List.flatMap_eq_nil_iff.mp hnil _ hmem)

/-- A command whose size needs more than 32 bits is not conveyed. -/
lemma not_conveyed_of_le (maxLocalMessageSize : UInt32)
    (h : 2 ^ 32 ≤ RoutingInfoEntry.commandSize (calls.map RoutingInfoCall.toEntry)) :
    ¬ ∃ command ∈ ((w.write target calls).sendClientRoutingInfo true maxLocalMessageSize target).1,
      Conveyed calls command := by
  rw [commandSize_eq] at h
  rw [sent_eq]
  rintro ⟨command, hcommand, hconveyed⟩
  obtain rfl := Option.some.inj hcommand
  have hlt := UInt32.toNat_lt (UInt32.ofNat (7 + (calls.flatMap RoutingInfoCall.bytes).length))
  exact not_conveyed_take (length_header _ _ _) rfl (by omega) hlt hconveyed

/-- **When a proxy does what was inserted**: exactly if the command is shorter than 2^32 bytes.

**Proof sketch.** Induction on the entries: a round of the loop reads an entry and no more. A command
that is cut off ends with an entry that is too long for it, if it is not cut off between two entries,
and the loop stops there. -/
theorem conveyed_iff (maxLocalMessageSize : UInt32) (calls : List RoutingInfoCall) :
    (∃ command ∈ ((w.write target calls).sendClientRoutingInfo true maxLocalMessageSize target).1,
      Conveyed calls command) ↔
    RoutingInfoEntry.commandSize (calls.map RoutingInfoCall.toEntry) < 2 ^ 32 := by
  constructor
  · intro hconveyed
    by_contra h
    exact not_conveyed_of_le w target maxLocalMessageSize (Nat.le_of_not_lt h) hconveyed
  · intro h
    rw [commandSize_eq] at h
    refine ⟨_, sent_eq w target maxLocalMessageSize calls, ?_⟩
    rw [List.take_of_length_le]
    · exact conveyed_of_lt h w.client
    · rw [UInt32.toNat_ofNat', Nat.mod_eq_of_lt h, List.length_append, length_header]

/-- Entries for some number of clients. -/
def manyClients (n : ℕ) : List RoutingInfoCall :=
  List.replicate n ⟨.addClient, 0x1001, 0, 0, .default, nofun⟩

/-- A writer that has written nothing. -/
def initial : RoutingInfoWriter := ⟨0, fun _ => none, fun _ => ∅⟩

/-- The size of a command with many clients. -/
lemma commandSize_manyClients (n : ℕ) :
    RoutingInfoEntry.commandSize ((manyClients n).map RoutingInfoCall.toEntry) = 7 + n * 10 := by
  rw [RoutingInfoEntry.commandSize, manyClients, List.map_replicate, List.map_replicate,
    List.sum_replicate_nat]
  rfl

/-- The size of a command with so many clients exceeds 32 bits. -/
theorem not_conveyed_manyClients : ¬ ∃ command ∈ ((initial.write 0x1002
    (manyClients 429496730)).sendClientRoutingInfo true messageSizeUnlimited 0x1002).1,
      Conveyed (manyClients 429496730) command := by
  refine not_conveyed_of_le _ _ _ ?_
  rw [commandSize_manyClients]
  omega

/-! ## The entries that the stub keeps -/

/-- The commands of the writer are the bytes of those of the stub. -/
def Encodes (w : RoutingInfoWriter) (s : RoutingManagerStub) : Prop :=
  ∀ target, (w.clientRoutingInfo target = none ∧ s.clientRoutingInfo target = none) ∨
    ∃ calls : List RoutingInfoCall,
      w.clientRoutingInfo target = some (header 0x03 w.client 0 ++ calls.flatMap RoutingInfoCall.bytes) ∧
      s.clientRoutingInfo target = some (calls.map RoutingInfoCall.toEntry)

variable {w} {s : RoutingManagerStub}

/-- A command is created. -/
lemma Encodes.createClientRoutingInfo (h : w.Encodes s) (target : UInt16) :
    (w.createClientRoutingInfo target).Encodes (s.createClientRoutingInfo target) := by
  intro target'
  unfold RoutingInfoWriter.createClientRoutingInfo RoutingManagerStub.createClientRoutingInfo
  by_cases htarget : target' = target
  · subst htarget
    exact Or.inr ⟨[], Function.update_self _ _ _, Function.update_self _ _ _⟩
  · simp only [Function.update_of_ne htarget]
    exact h target'

/-- **The bytes are those of the entries** that the stub keeps, after every call. -/
theorem Encodes.insertClientRoutingInfo (h : w.Encodes s) (target : UInt16) (c : RoutingInfoCall) :
    (w.insertClientRoutingInfo target c).Encodes (s.insertClientRoutingInfo target c.toEntry) := by
  intro target'
  unfold RoutingInfoWriter.insertClientRoutingInfo RoutingManagerStub.insertClientRoutingInfo
  rcases h target with ⟨hnone, hnone'⟩ | ⟨calls, hsome, hsome'⟩
  · simp only [hnone, hnone']
    exact h target'
  · simp only [hsome, hsome', insertEntry_eq]
    by_cases htarget : target' = target
    · subst htarget
      refine Or.inr ⟨calls ++ [c], ?_, ?_⟩
      · rw [List.flatMap_append, List.flatMap_singleton, ← List.append_assoc]
        exact Function.update_self _ _ _
      · rw [List.map_append, List.map_singleton]
        exact Function.update_self _ _ _
    · simp only [Function.update_of_ne htarget]
      exact h target'

end RoutingInfoWriter

end Vsomeip
