import Vsomeip.Routing.LocalCommand

set_option relaxedAutoImplicit false
set_option autoImplicit false

/-!
# Safety of the parsers of local commands

What a local command has to look like for the parsers to stay inside of it. The commands with a size
of their own are checked, and so is the number of requests and of eventgroups. A SEND, a NOTIFY and a
NOTIFY_ONE are not, and have to be long enough for what is read of them. The length fields inside of a
routing info are trusted: there the service blocks have to be complete.

## Main definitions

* `Vsomeip.FramedCommand` — a command that the local framing hands on.
* `Vsomeip.StubCommand.Safe`, `Vsomeip.ProxyCommand.Safe` — the parser gets to its end, and passes on no
  message that exceeds the payload.
* `Vsomeip.RoutingInfo`, `Vsomeip.OfferedServicesInfo` — the infos whose entries are complete.
* `Vsomeip.StubCommand.Complete`, `Vsomeip.ProxyCommand.Complete` — the commands that are.

## Main results

* `Vsomeip.safe_iff_complete` — the parsers are safe on a command exactly if it is complete.
* `Vsomeip.not_safe_send` — a SEND without payload.
-/

namespace Vsomeip

open Checked Command

/-- A command with a header and a size field that is the number of bytes behind the header. -/
structure FramedCommand where
  data : List UInt8
  headed : 7 ≤ data.length
  framed : (LocalServer.commandSize data 0).toNat = data.length - 7

namespace FramedCommand

variable (c : FramedCommand)

/-- The type of the command. -/
def type : CommandType := .ofByte (c.data.getD 0 0)

/-- The client of the command. -/
def client : UInt16 := bytesToWord (c.data.getD 2 0) (c.data.getD 1 0)

/-- The bytes behind the header. -/
def payload : List UInt8 := c.data.drop 7

/-- The payload of a command is what stands behind its seven bytes. -/
lemma length_payload : c.payload.length = c.data.length - 7 :=
  List.length_drop

/-- A payload is shorter than 2 ^ 32 bytes. -/
lemma length_payload_lt : c.payload.length < 2 ^ 32 := by
  rw [c.length_payload, ← c.framed]
  exact UInt32.toNat_lt _

end FramedCommand

/-- The parser of the routing manager gets to its end, and the messages it passes on are not longer
than the payload. -/
def StubCommand.Safe (cfg : StubConfig) (data : List UInt8) : Prop :=
  Yields (fun calls => ∀ call ∈ calls, ∀ n, StubCall.messageSize call = some n →
    n.toNat ≤ data.length - 7) (StubCommand.onMessage cfg data)

/-- The same of the parser of an application. -/
def ProxyCommand.Safe (cfg : ProxyConfig) (data : List UInt8) : Prop :=
  Yields (fun calls => ∀ call ∈ calls, ∀ n, ProxyCall.messageSize call = some n →
    n ≤ data.length - 7) (ProxyCommand.onMessage cfg data)

/-! ## Complete infos -/

/-- The number in four bytes of a list. -/
def longAt (bytes : List UInt8) (pos : ℕ) : ℕ :=
  (bytesToLong (bytes.getD (pos + 3) 0) (bytes.getD (pos + 2) 0) (bytes.getD (pos + 1) 0)
    (bytes.getD pos 0)).toNat

/-- The length of a service block with a size: the size itself, and if it has room for an instance,
the service and as many instances as it has room for. -/
def blockLength (size : ℕ) : ℕ := if 9 ≤ size then 6 + 7 * ((size - 2) / 7) else 4

/-- Service blocks at the start of some bytes, until less than four bytes of a budget are left, and
what is behind them. -/
inductive ServiceBlocks : ℕ → List UInt8 → List UInt8 → Prop
  | done {budget : ℕ} {rest : List UInt8} (h : budget < 4) : ServiceBlocks budget rest rest
  | block {budget : ℕ} {block rest rest' : List UInt8} (h : 4 ≤ budget) (size : 4 ≤ block.length)
      (length : block.length = blockLength (longAt block 0))
      (blocks : ServiceBlocks (budget - block.length) rest rest') :
      ServiceBlocks budget (block ++ rest) rest'

/-- The end of a routing info of some size. An entry is a type and a length, a client and service
blocks. The info may end with less than eight bytes, with an entry that is too long for it, or with
one that has no client. -/
inductive RoutingInfo (size : ℕ) : List UInt8 → Prop
  | short {rest : List UInt8} (h : rest.length < 8) : RoutingInfo size rest
  | refused {header rest : List UInt8} (h : header.length = 8)
      (sum : longAt header 4 + (size - rest.length) < 2 ^ 32) (long : rest.length < longAt header 4) :
      RoutingInfo size (header ++ rest)
  | ended {header rest : List UInt8} (h : header.length = 8) (fits : longAt header 4 ≤ rest.length)
      (noClient : rest.length < 2) : RoutingInfo size (header ++ rest)
  | entry {header client services rest : List UInt8} (h : header.length = 8)
      (hclient : client.length = 2) (fits : longAt header 4 ≤ (client ++ services).length)
      (blocks : ServiceBlocks (longAt header 4) services rest) (info : RoutingInfo size rest) :
      RoutingInfo size (header ++ (client ++ services))

/-- The end of an offered services info of some size. An entry is a type and a length, and a service
instance if the length has room for it. -/
inductive OfferedServicesInfo (size : ℕ) : List UInt8 → Prop
  | short {rest : List UInt8} (h : rest.length < 8) : OfferedServicesInfo size rest
  | refused {header rest : List UInt8} (h : header.length = 8)
      (sum : longAt header 4 + (size - rest.length) < 2 ^ 32) (long : rest.length < longAt header 4) :
      OfferedServicesInfo size (header ++ rest)
  | small {header rest : List UInt8} (h : header.length = 8) (fits : longAt header 4 ≤ rest.length)
      (noService : longAt header 4 < 9) (info : OfferedServicesInfo size rest) :
      OfferedServicesInfo size (header ++ rest)
  | entry {header service rest : List UInt8} (h : header.length = 8) (hservice : service.length = 9)
      (fits : longAt header 4 ≤ (service ++ rest).length) (room : 9 ≤ longAt header 4)
      (info : OfferedServicesInfo size rest) : OfferedServicesInfo size (header ++ (service ++ rest))

/-- The command is skipped because of its client, or is long enough for what is read of it. -/
def StubCommand.Complete (cfg : StubConfig) (c : FramedCommand) : Prop :=
  (cfg.isSecurityEnabled && cfg.boundClient != c.client) = true ∨
    match c.type with
    | .send => 15 ≤ c.payload.length
    | .notify => 4 ≤ c.payload.length
    | .notifyOne => 6 ≤ c.payload.length
    | _ => True

/-- The command is skipped because of its client, or has what is read of it. -/
def ProxyCommand.Complete (cfg : ProxyConfig) (c : FramedCommand) : Prop :=
  (cfg.isSecurityEnabled && cfg.boundClient != cfg.routingHostId &&
      cfg.boundClient != c.client) = true ∨
    match c.type with
    | .send => 5 ≤ c.payload.length
    | .routingInfo => (!cfg.isSecurityEnabled || cfg.boundClient == cfg.routingHostId) = true →
      RoutingInfo c.payload.length c.payload
    | .offeredServicesResponse =>
      (!cfg.isSecurityEnabled || cfg.boundClient == cfg.routingHostId) = true →
        OfferedServicesInfo c.payload.length c.payload
    | _ => True

/-! ## Reads -/

section Reads

variable {data : List UInt8} {pos : ℕ}

/-- A byte inside the command can be read. -/
lemma fine_byte (h : pos < data.length) : Fine (byte data pos) := fine_guarded_iff.mpr h

/-- A flag inside the command can be read. -/
lemma fine_bool (h : pos < data.length) : Fine (bool data pos) := fine_guarded_iff.mpr h

/-- Two bytes inside the command can be read. -/
lemma fine_word (h : pos + 2 ≤ data.length) : Fine (word data pos) := fine_guarded_iff.mpr h

/-- Two bytes inside the command can be read in network order. -/
lemma fine_networkWord (h : pos + 2 ≤ data.length) : Fine (networkWord data pos) :=
  fine_guarded_iff.mpr h

/-- Four bytes inside the command can be read. -/
lemma fine_long (h : pos + 4 ≤ data.length) : Fine (long data pos) := fine_guarded_iff.mpr h

/-- A command of a fixed size is skipped or has all that is read of it. -/
lemma yields_ofSize {Call : Type} {P : List Call → Prop} {size : ℕ} {calls : Except Fault (List Call)}
    (hskipped : P []) (h : data.length = size → Yields P calls) : Yields P (ofSize data size calls) := by
  rw [ofSize]
  split
  · exact yields_pure hskipped
  · rename_i hsize
    exact h (not_not.mp hsize)

end Reads

/-! ## The routing manager -/

namespace StubCommand

variable {cfg : StubConfig} {c : FramedCommand} {client : UInt16} {n : ℕ}

/-- The calls pass on no message longer than some bytes. -/
abbrev Sized (n : ℕ) (calls : List StubCall) : Prop :=
  ∀ call ∈ calls, ∀ size, StubCall.messageSize call = some size → size.toNat ≤ n

/-- No call exceeds the size. -/
lemma sized_nil : Sized n [] := fun _ h => by cases h

/-- A call without a message exceeds no size. -/
lemma sized_singleton {call : StubCall} (h : call.messageSize = none) : Sized n [call] := by
  intro call' hcall size hsize
  rw [List.mem_singleton.mp hcall, h] at hsize
  cases hsize

section Fixed

variable (data : List UInt8) (cfg client)

/-- An OFFER_SERVICE is read inside its bytes, whatever its length. -/
lemma yields_offerService : Yields (Sized n) (offerService data client) := by
  refine yields_ofSize sized_nil fun h => ?_
  refine (fine_word (by simp [payloadPos, h])).bind_yields fun service => ?_
  refine (fine_word (by simp [payloadPos, h])).bind_yields fun instance_ => ?_
  refine (fine_byte (by simp [payloadPos, h])).bind_yields fun major => ?_
  refine (fine_long (by simp [payloadPos, h])).bind_yields fun minor => ?_
  exact yields_pure (sized_singleton rfl)

/-- A STOP_OFFER_SERVICE is read inside its bytes, whatever its length. -/
lemma yields_stopOfferService : Yields (Sized n) (stopOfferService data client) := by
  refine yields_ofSize sized_nil fun h => ?_
  refine (fine_word (by simp [payloadPos, h])).bind_yields fun service => ?_
  refine (fine_word (by simp [payloadPos, h])).bind_yields fun instance_ => ?_
  refine (fine_byte (by simp [payloadPos, h])).bind_yields fun major => ?_
  refine (fine_long (by simp [payloadPos, h])).bind_yields fun minor => ?_
  exact yields_pure (sized_singleton rfl)

/-- A SUBSCRIBE is read inside its bytes by the stub, whatever its length. -/
lemma yields_subscribe : Yields (Sized n) (subscribe cfg data client) := by
  refine yields_ofSize sized_nil fun h => ?_
  refine (fine_word (by simp [payloadPos, h])).bind_yields fun service => ?_
  refine (fine_word (by simp [payloadPos, h])).bind_yields fun instance_ => ?_
  refine (fine_word (by simp [payloadPos, h])).bind_yields fun eventgroup => ?_
  refine (fine_byte (by simp [payloadPos, h])).bind_yields fun major => ?_
  refine (fine_word (by simp [payloadPos, h])).bind_yields fun event => ?_
  refine (fine_byte (by simp [payloadPos, h])).bind_yields fun subscriptionType => ?_
  refine yields_pure ?_
  split
  · exact sized_singleton rfl
  · exact sized_nil

/-- An UNSUBSCRIBE is read inside its bytes by the stub, whatever its length. -/
lemma yields_unsubscribe : Yields (Sized n) (unsubscribe data client) := by
  refine yields_ofSize sized_nil fun h => ?_
  refine (fine_word (by simp [payloadPos, h])).bind_yields fun service => ?_
  refine (fine_word (by simp [payloadPos, h])).bind_yields fun instance_ => ?_
  refine (fine_word (by simp [payloadPos, h])).bind_yields fun eventgroup => ?_
  refine (fine_word (by simp [payloadPos, h])).bind_yields fun event => ?_
  exact yields_pure (sized_singleton rfl)

/-- An answer to a subscription is read inside its bytes by the stub, whatever its length. -/
lemma yields_subscribeAnswer
    {call : UInt16 → UInt16 → UInt16 → UInt16 → UInt16 → UInt16 → StubCall}
    (hcall : ∀ a b c d e f, (call a b c d e f).messageSize = none) :
    Yields (Sized n) (subscribeAnswer data call) := by
  refine yields_ofSize sized_nil fun h => ?_
  refine (fine_word (by simp [payloadPos, h])).bind_yields fun service => ?_
  refine (fine_word (by simp [payloadPos, h])).bind_yields fun instance_ => ?_
  refine (fine_word (by simp [payloadPos, h])).bind_yields fun eventgroup => ?_
  refine (fine_word (by simp [payloadPos, h])).bind_yields fun subscriber => ?_
  refine (fine_word (by simp [payloadPos, h])).bind_yields fun event => ?_
  refine (fine_word (by simp [payloadPos, h])).bind_yields fun subscriptionId => ?_
  exact yields_pure (sized_singleton (hcall ..))

/-- An UNSUBSCRIBE_ACK is read inside its bytes, whatever its length. -/
lemma yields_unsubscribeAck : Yields (Sized n) (unsubscribeAck data client) := by
  refine yields_ofSize sized_nil fun h => ?_
  refine (fine_word (by simp [payloadPos, h])).bind_yields fun service => ?_
  refine (fine_word (by simp [payloadPos, h])).bind_yields fun instance_ => ?_
  refine (fine_word (by simp [payloadPos, h])).bind_yields fun eventgroup => ?_
  refine (fine_word (by simp [payloadPos, h])).bind_yields fun subscriptionId => ?_
  exact yields_pure (sized_singleton rfl)

/-- A RELEASE_SERVICE is read inside its bytes, whatever its length. -/
lemma yields_releaseService : Yields (Sized n) (releaseService data client) := by
  refine yields_ofSize sized_nil fun h => ?_
  refine (fine_word (by simp [payloadPos, h])).bind_yields fun service => ?_
  refine (fine_word (by simp [payloadPos, h])).bind_yields fun instance_ => ?_
  exact yields_pure (sized_singleton rfl)

/-- An UNREGISTER_EVENT is read inside its bytes, whatever its length. -/
lemma yields_unregisterEvent : Yields (Sized n) (unregisterEvent cfg data client) := by
  refine yields_ofSize sized_nil fun h => ?_
  refine (fine_word (by simp [payloadPos, h])).bind_yields fun service => ?_
  refine (fine_word (by simp [payloadPos, h])).bind_yields fun instance_ => ?_
  refine (fine_word (by simp [payloadPos, h])).bind_yields fun event => ?_
  refine (fine_bool (by simp [payloadPos, h])).bind_yields fun isProvided => ?_
  refine yields_pure ?_
  split
  · exact sized_nil
  · exact sized_singleton rfl

/-- An ID_RESPONSE is read inside its bytes, whatever its length. -/
lemma yields_idResponse : Yields (Sized n) (idResponse data client) := by
  refine yields_ofSize sized_nil fun h => ?_
  refine (fine_word (by simp [payloadPos, h])).bind_yields fun service => ?_
  refine (fine_word (by simp [payloadPos, h])).bind_yields fun instance_ => ?_
  refine (fine_bool (by simp [payloadPos, h])).bind_yields fun reliable => ?_
  exact yields_pure (sized_singleton rfl)

/-- An OFFERED_SERVICES_REQUEST is read inside its bytes, whatever its length. -/
lemma yields_offeredServicesRequest :
    Yields (Sized n) (offeredServicesRequest data client) := by
  refine yields_ofSize sized_nil fun h => ?_
  refine (fine_byte (by simp [payloadPos, h])).bind_yields fun offerType => ?_
  exact yields_pure (sized_singleton rfl)

end Fixed

section Variable

variable {data : List UInt8} {itsSize : UInt32}

/-- The requests are inside of the payload. -/
lemma yields_requestService (hsize : itsSize.toNat + 7 ≤ data.length) :
    Yields (Sized n) (requestService cfg data client itsSize) := by
  have hrequests : Yields (fun requests => ∀ calls ∈ requests, Sized n calls)
      ((List.range (itsSize.toNat / 10)).mapM (request cfg data client)) := by
    refine yields_mapM fun i hi => ?_
    have hi : i * 10 + 10 ≤ itsSize.toNat := by
      have hlt := List.mem_range.mp hi
      have hmul := Nat.div_mul_le_self itsSize.toNat 10
      omega
    refine (fine_word (by rw [payloadPos]; omega)).bind_yields fun service => ?_
    refine (fine_word (by rw [payloadPos]; omega)).bind_yields fun instance_ => ?_
    refine (fine_byte (by rw [payloadPos]; omega)).bind_yields fun major => ?_
    refine (fine_long (by rw [payloadPos]; omega)).bind_yields fun minor => ?_
    refine (fine_bool (by rw [payloadPos]; omega)).bind_yields fun useExclusiveProxy => ?_
    refine yields_pure ?_
    split
    · exact sized_singleton rfl
    · exact sized_nil
  obtain ⟨requests, hok, hsized⟩ := hrequests
  refine ⟨_, bind_eq_ok_iff.mpr ⟨requests, hok, rfl⟩, fun call hcall => ?_⟩
  rcases List.mem_append.mp hcall with hcall | hcall
  · obtain ⟨calls, hcalls, hcall⟩ := List.mem_flatten.mp hcall
    exact hsized calls hcalls call hcall
  · exact sized_singleton rfl call hcall

/-- The eventgroups are inside of the payload. -/
lemma yields_registerEvent (hsize : itsSize.toNat + 7 ≤ data.length) :
    Yields (Sized n) (registerEvent cfg data client itsSize) := by
  rw [registerEvent]
  split
  · exact yields_pure sized_nil
  · rename_i h
    refine (fine_word (by rw [payloadPos]; omega)).bind_yields fun service => ?_
    refine (fine_word (by rw [payloadPos]; omega)).bind_yields fun instance_ => ?_
    refine (fine_word (by rw [payloadPos]; omega)).bind_yields fun event => ?_
    refine (fine_bool (by rw [payloadPos]; omega)).bind_yields fun isField => ?_
    refine (fine_bool (by rw [payloadPos]; omega)).bind_yields fun isProvided => ?_
    split
    · exact yields_pure sized_nil
    · refine (Fine.mapM fun i hi => fine_word ?_).bind_yields fun eventgroups => ?_
      · have hi := List.mem_range'_1.mp hi
        rw [payloadPos]
        omega
      · exact yields_pure (sized_singleton rfl)

/-- A size that is reduced. -/
lemma sized_reduced {k : UInt32} (h : k ≤ itsSize) : (itsSize - k).toNat ≤ itsSize.toNat := by
  rw [UInt32.toNat_sub_of_le _ _ h]
  exact Nat.sub_le _ _

/-- A size can be reduced without wrapping by no more than itself. -/
lemma fine_reduced_iff {k : UInt32} : Fine (reduced itsSize k) ↔ k.toNat ≤ itsSize.toNat := by
  rw [reduced, fine_guarded_iff, UInt32.le_iff_toNat_le]

/-- A SEND has to have the type of its message. -/
lemma yields_send_iff (hsize : itsSize.toNat + 7 = data.length) :
    Yields (Sized itsSize.toNat) (send cfg data itsSize) ↔ 15 ≤ itsSize.toNat := by
  constructor
  · intro h
    have hfine := h.fine
    iterate 5 obtain ⟨_, hfine⟩ := hfine.exists_of_bind
    have hbyte := fine_guarded_iff.mp hfine.of_bind
    rw [payloadPos] at hbyte
    omega
  · intro h
    refine (fine_networkWord (by rw [payloadPos]; omega)).bind_yields fun service => ?_
    refine (fine_networkWord (by rw [payloadPos]; omega)).bind_yields fun clientFromHeader => ?_
    refine (fine_word (by omega)).bind_yields fun instance_ => ?_
    refine (fine_bool (by omega)).bind_yields fun reliable => ?_
    refine (fine_bool (by omega)).bind_yields fun isValidCrc => ?_
    refine (fine_byte (by rw [payloadPos]; omega)).bind_yields fun messageType => ?_
    dsimp only
    generalize (if isRequest messageType = true then _ else _ : Bool) = isAllowed
    cases isAllowed with
    | false => exact yields_pure sized_nil
    | true =>
      have hle : (2 + 1 + 1 + 1 : UInt32) ≤ itsSize := by
        rw [UInt32.le_iff_toNat_le]
        exact le_trans (by decide) h
      refine ⟨_, bind_eq_ok_iff.mpr ⟨_, guarded_of hle _ _, rfl⟩, fun call hcall size hsize => ?_⟩
      rw [List.mem_singleton.mp hcall] at hsize
      cases hsize
      exact sized_reduced hle

/-- A NOTIFY has to have the bytes by which its size is reduced. -/
lemma yields_notify_iff (hsize : itsSize.toNat + 7 = data.length) :
    Yields (Sized itsSize.toNat) (notify data itsSize) ↔ 4 ≤ itsSize.toNat := by
  constructor
  · intro h
    have hfine := h.fine
    iterate 2 obtain ⟨_, hfine⟩ := hfine.exists_of_bind
    exact fine_reduced_iff.mp hfine.of_bind
  · intro h
    have hle : (2 + 1 + 1 : UInt32) ≤ itsSize := by
      rw [UInt32.le_iff_toNat_le]
      exact le_trans (by decide) h
    refine (fine_networkWord (by rw [payloadPos]; omega)).bind_yields fun service => ?_
    refine (fine_word (by omega)).bind_yields fun instance_ => ?_
    refine ⟨_, bind_eq_ok_iff.mpr ⟨_, guarded_of hle _ _, rfl⟩, fun call hcall size hsize => ?_⟩
    rw [List.mem_singleton.mp hcall] at hsize
    cases hsize
    exact sized_reduced hle

/-- So does a NOTIFY_ONE. -/
lemma yields_notifyOne_iff (hsize : itsSize.toNat + 7 = data.length) :
    Yields (Sized itsSize.toNat) (notifyOne data itsSize) ↔ 6 ≤ itsSize.toNat := by
  constructor
  · intro h
    have hfine := h.fine
    iterate 3 obtain ⟨_, hfine⟩ := hfine.exists_of_bind
    exact fine_reduced_iff.mp hfine.of_bind
  · intro h
    have hle : (2 + 1 + 1 + 2 : UInt32) ≤ itsSize := by
      rw [UInt32.le_iff_toNat_le]
      exact le_trans (by decide) h
    refine (fine_networkWord (by rw [payloadPos]; omega)).bind_yields fun service => ?_
    refine (fine_word (by omega)).bind_yields fun instance_ => ?_
    refine (fine_word (by omega)).bind_yields fun targetClient => ?_
    refine ⟨_, bind_eq_ok_iff.mpr ⟨_, guarded_of hle _ _, rfl⟩, fun call hcall size hsize => ?_⟩
    rw [List.mem_singleton.mp hcall] at hsize
    cases hsize
    exact sized_reduced hle

end Variable

/-- What the header of a command says. -/
lemma onMessage_eq (cfg : StubConfig) (c : FramedCommand) : onMessage cfg c.data =
    if cfg.isSecurityEnabled && cfg.boundClient != c.client then pure []
    else dispatch cfg c.data c.client (LocalServer.commandSize c.data 0) c.type := by
  have hheaded := c.headed
  have hbyte : byte c.data 0 = .ok (c.data.getD 0 0) := guarded_of (by omega) _ _
  have hclient : word c.data 1 = .ok c.client := guarded_of (by omega) _ _
  have hlong : long c.data 3 = .ok (LocalServer.commandSize c.data 0) := guarded_of (by omega) _ _
  have hle : (LocalServer.commandSize c.data 0).toNat ≤ c.data.length - 7 := c.framed.le
  rw [onMessage, if_pos (by omega), hbyte]
  change (word c.data 1 >>= _) = _
  rw [hclient]
  change (if _ then _ else long c.data 3 >>= _) = _
  rw [hlong]
  change (if _ then _ else if _ then _ else _) = _
  rw [if_pos hle]
  rfl

/-- **The parser of the routing manager is safe** on a command exactly if it is complete. -/
lemma safe_iff (cfg : StubConfig) (c : FramedCommand) : Safe cfg c.data ↔ Complete cfg c := by
  have hsize : (LocalServer.commandSize c.data 0).toNat + 7 = c.data.length := by
    have hframed := c.framed
    have hheaded := c.headed
    omega
  rw [Safe, onMessage_eq, Complete, c.length_payload, ← c.framed]
  split
  · rename_i hskip
    exact iff_of_true (yields_pure sized_nil) (.inl hskip)
  · rename_i hskip
    rw [or_iff_right hskip]
    cases htype : c.type with
    | send => exact yields_send_iff hsize
    | notify => exact yields_notify_iff hsize
    | notifyOne => exact yields_notifyOne_iff hsize
    | registerApplication => exact iff_of_true (yields_pure (sized_singleton rfl)) trivial
    | deregisterApplication => exact iff_of_true (yields_pure (sized_singleton rfl)) trivial
    | pong => exact iff_of_true (yields_pure (sized_singleton rfl)) trivial
    | offerService => exact iff_of_true (yields_offerService _ _) trivial
    | stopOfferService => exact iff_of_true (yields_stopOfferService _ _) trivial
    | subscribe => exact iff_of_true (yields_subscribe _ _ _) trivial
    | unsubscribe => exact iff_of_true (yields_unsubscribe _ _) trivial
    | subscribeAck => exact iff_of_true (yields_subscribeAnswer _ fun _ _ _ _ _ _ => rfl) trivial
    | subscribeNack => exact iff_of_true (yields_subscribeAnswer _ fun _ _ _ _ _ _ => rfl) trivial
    | unsubscribeAck => exact iff_of_true (yields_unsubscribeAck _ _) trivial
    | requestService => exact iff_of_true (yields_requestService hsize.le) trivial
    | releaseService => exact iff_of_true (yields_releaseService _ _) trivial
    | registerEvent => exact iff_of_true (yields_registerEvent hsize.le) trivial
    | unregisterEvent => exact iff_of_true (yields_unregisterEvent _ _ _) trivial
    | idResponse => exact iff_of_true (yields_idResponse _ _) trivial
    | offeredServicesRequest => exact iff_of_true (yields_offeredServicesRequest _ _) trivial
    | registeredAck | routingInfo | ping | idRequest | offeredServicesResponse | other =>
      exact iff_of_true (yields_pure sized_nil) trivial

end StubCommand

/-! ## Infos -/

section Drop

variable {payload a b : List UInt8} {pos n k : ℕ}

/-- A number behind some bytes that are dropped. -/
lemma longAt_drop : longAt (payload.drop pos) k = longAt payload (pos + k) := by
  simp only [longAt, List.getD_eq_getElem?_getD, List.getElem?_drop, Nat.add_assoc]

/-- A number inside the first of two lists. -/
lemma longAt_append (h : k + 4 ≤ a.length) : longAt (a ++ b) k = longAt a k := by
  simp only [longAt, List.getD_eq_getElem?_getD]
  rw [List.getElem?_append_left (by omega), List.getElem?_append_left (by omega),
    List.getElem?_append_left (by omega), List.getElem?_append_left (by omega)]

/-- What is left of a payload, cut after some bytes. -/
lemma drop_eq_take_append : payload.drop pos = (payload.drop pos).take n ++ payload.drop (pos + n) := by
  rw [← List.drop_drop, List.take_append_drop]

/-- A part of the payload has its length. -/
lemma length_take_drop (h : pos + n ≤ payload.length) : ((payload.drop pos).take n).length = n := by
  rw [List.length_take, List.length_drop]
  omega

/-- A number in the bytes that are taken from some position on. -/
lemma longAt_take_drop (hk : k + 4 ≤ n) (h : pos + n ≤ payload.length) :
    longAt ((payload.drop pos).take n) k = longAt payload (pos + k) := by
  rw [← longAt_drop, drop_eq_take_append (n := n), longAt_append (by rw [length_take_drop h]; exact hk),
    ← drop_eq_take_append]

/-- What is in front of the rest from some position on. -/
lemma append_eq_drop (h : a ++ b = payload.drop pos) (hpos : pos ≤ payload.length) :
    pos + a.length ≤ payload.length ∧ b = payload.drop (pos + a.length) := by
  have hlength := congrArg List.length h
  rw [List.length_append, List.length_drop] at hlength
  refine ⟨by omega, ?_⟩
  rw [← List.drop_drop, ← h, List.drop_left]

end Drop

namespace ProxyCommand

variable {payload : List UInt8} {i j fuel : ℕ}

/-- What reading four bytes returns. -/
lemma long_eq_ok_iff {pos : ℕ} {n : UInt32} :
    long payload pos = .ok n ↔ pos + 4 ≤ payload.length ∧ n.toNat = longAt payload pos := by
  rw [long, guarded_eq_ok_iff, longAt]
  refine and_congr_right fun _ => ?_
  rw [← UInt32.toNat_inj]
  exact eq_comm

/-- The instances of a service have to be there. -/
lemma fine_readInstances_iff {service : UInt16} {n pos : ℕ} (hpos : pos ≤ payload.length) :
    Fine (readInstances payload service n pos) ↔ pos + 7 * n ≤ payload.length := by
  induction n generalizing pos with
  | zero => exact iff_of_true (fine_pure _) hpos
  | succ n ih =>
    rw [readInstances]
    constructor
    · intro h
      obtain ⟨_, h⟩ := h.exists_of_bind
      obtain ⟨_, h⟩ := h.exists_of_bind
      have hlong := fine_guarded_iff.mp h.of_bind
      obtain ⟨_, h⟩ := h.exists_of_bind
      have hrest := (ih (by omega)).mp h.of_bind
      omega
    · intro h
      refine (fine_word (by omega)).bind fun instance_ => ?_
      refine (fine_byte (by omega)).bind fun major => ?_
      refine (fine_long (by omega)).bind fun minor => ?_
      refine ((ih (by omega)).mpr (by omega)).bind fun rest => ?_
      exact fine_pure _

/-- A service block at some position, and the blocks behind it. -/
lemma serviceBlocks_of_drop {budget pos length : ℕ} {rest' : List UInt8} (hbudget : 4 ≤ budget)
    (hlength : length = blockLength (longAt payload pos)) (hle : pos + length ≤ payload.length)
    (hrest : ServiceBlocks (budget - length) (payload.drop (pos + length)) rest') :
    ServiceBlocks budget (payload.drop pos) rest' := by
  have hfour : 4 ≤ length := by
    rw [hlength, blockLength]
    split <;> omega
  have htake := length_take_drop hle
  rw [drop_eq_take_append (n := length)]
  refine .block hbudget (by rw [htake]; exact hfour) ?_ (by rw [htake]; exact hrest)
  rw [htake, longAt_take_drop (by omega) hle]
  exact hlength

/-- **The service blocks that are read are complete.** Induction on the rounds of the loop. -/
lemma serviceBlocks_of_readServices {clientSize : UInt32} {services : List ServiceInstance} {j' : ℕ}
    (hij : i + j ≤ payload.length)
    (h : readServices payload clientSize i fuel j = .ok (services, j')) :
    ServiceBlocks (clientSize.toNat - j) (payload.drop (i + j)) (payload.drop (i + j')) ∧
      i + j' ≤ payload.length := by
  induction fuel generalizing j services with
  | zero => cases h
  | succ fuel ih =>
    rw [readServices] at h
    split at h
    · rename_i hbudget
      obtain ⟨size, hsize, h⟩ := bind_eq_ok_iff.mp h
      obtain ⟨hlong, hsize⟩ := long_eq_ok_iff.mp hsize
      split at h
      · rename_i hroom
        obtain ⟨service, hservice, h⟩ := bind_eq_ok_iff.mp h
        have hservice := (guarded_eq_ok_iff.mp hservice).1
        obtain ⟨instances, hinstances, h⟩ := bind_eq_ok_iff.mp h
        have hinstances := (fine_readInstances_iff (by omega)).mp ⟨_, hinstances⟩
        obtain ⟨⟨rest, j''⟩, hrest, h⟩ := bind_eq_ok_iff.mp h
        obtain ⟨-, rfl⟩ := Prod.mk.inj (Except.ok.inj h)
        rw [Nat.add_assoc] at hrest
        obtain ⟨hblocks, hle⟩ := ih (by omega) hrest
        rw [← Nat.sub_sub, ← Nat.add_assoc] at hblocks
        refine ⟨serviceBlocks_of_drop (by omega) ?_ (by omega) hblocks, hle⟩
        rw [← hsize, blockLength, if_pos hroom]
      · rename_i hroom
        obtain ⟨hblocks, hle⟩ := ih (by omega) h
        rw [← Nat.sub_sub, ← Nat.add_assoc] at hblocks
        refine ⟨serviceBlocks_of_drop (by omega) ?_ (by omega) hblocks, hle⟩
        rw [← hsize, blockLength, if_neg hroom]
    · rename_i hbudget
      obtain ⟨-, rfl⟩ := Prod.mk.inj (Except.ok.inj h)
      exact ⟨.done (by omega), hij⟩

/-- **Complete service blocks are read.** Induction on the blocks; a round of the loop takes four
bytes at least. -/
lemma readServices_of_serviceBlocks {clientSize : UInt32} {budget : ℕ} {rest rest' : List UInt8}
    (h : ServiceBlocks budget rest rest') (hbudget : budget = clientSize.toNat - j)
    (hrest : rest = payload.drop (i + j)) (hij : i + j ≤ payload.length)
    (hfuel : payload.length - (i + j) < fuel) :
    ∃ services j', readServices payload clientSize i fuel j = .ok (services, j') ∧
      rest' = payload.drop (i + j') ∧ i + j' ≤ payload.length := by
  induction h generalizing j fuel with
  | done hlt =>
    obtain ⟨fuel, rfl⟩ := Nat.exists_eq_add_one_of_ne_zero (Nat.ne_zero_of_lt hfuel)
    refine ⟨[], j, ?_, hrest, hij⟩
    rw [readServices, if_neg (by omega)]
    rfl
  | @block budget block rest rest' hfour hsize hlength hblocks ih =>
    obtain ⟨fuel, rfl⟩ := Nat.exists_eq_add_one_of_ne_zero (Nat.ne_zero_of_lt hfuel)
    obtain ⟨hle, hrest'⟩ := append_eq_drop hrest hij
    have hlongAt : longAt block 0 = longAt payload (i + j) := by
      rw [← longAt_append (b := rest) hsize, hrest, longAt_drop, Nat.add_zero]
    obtain ⟨size, hlong⟩ := @fine_long payload (i + j) (by omega)
    have hsizeNat := (long_eq_ok_iff.mp hlong).2
    obtain ⟨services, j', hread, hdrop, hle'⟩ := @ih (j + block.length) fuel
      (by omega) (by rw [← Nat.add_assoc]; exact hrest') (by omega) (by omega)
    rw [readServices, if_pos (by omega)]
    rw [hlongAt, ← hsizeNat, blockLength] at hlength
    split at hlength
    · rename_i hroom
      obtain ⟨service, hservice⟩ := @fine_word payload (i + (j + 4)) (by omega)
      obtain ⟨instances, hinstances⟩ :=
        (@fine_readInstances_iff payload service ((size.toNat - 2) / 7) (i + (j + 6))
          (by omega)).mpr (by omega)
      refine ⟨instances ++ services, j', bind_eq_ok_iff.mpr ⟨size, hlong, ?_⟩, hdrop, hle'⟩
      rw [if_pos hroom]
      refine bind_eq_ok_iff.mpr ⟨service, hservice, ?_⟩
      refine bind_eq_ok_iff.mpr ⟨instances, hinstances, ?_⟩
      refine bind_eq_ok_iff.mpr ⟨(services, j'), ?_, rfl⟩
      rw [Nat.add_assoc, ← hlength]
      exact hread
    · rename_i hroom
      refine ⟨services, j', bind_eq_ok_iff.mpr ⟨size, hlong, ?_⟩, hdrop, hle'⟩
      rw [if_neg hroom, ← hlength]
      exact hread

/-- The header of an entry at some position. -/
lemma header_eq {header rest : List UInt8} (h : header ++ rest = payload.drop i)
    (hheader : header.length = 8) (hi : i ≤ payload.length) :
    i + 8 ≤ payload.length ∧ rest = payload.drop (i + 8) ∧
      rest.length = payload.length - (i + 8) ∧ longAt header 4 = longAt payload (i + 4) := by
  obtain ⟨hle, hrest⟩ := append_eq_drop h hi
  rw [hheader] at hle hrest
  refine ⟨hle, hrest, by rw [hrest, List.length_drop], ?_⟩
  rw [← longAt_append (b := rest) (by omega), h, longAt_drop]

/-- What is read of a header. -/
lemma exists_header (hheader : i + 8 ≤ payload.length)
    (hsum : longAt payload (i + 4) + (i + 8) < 2 ^ 32) :
    ∃ type size : UInt32, long payload i = .ok type ∧ long payload (i + 4) = .ok size ∧
      lengthSum size (i + 8) = .ok (size.toNat + (i + 8)) ∧
      size.toNat = longAt payload (i + 4) := by
  obtain ⟨type, htype⟩ := @fine_long payload i (by omega)
  obtain ⟨size, hsize⟩ := @fine_long payload (i + 4) (by omega)
  have hsizeNat := (long_eq_ok_iff.mp hsize).2
  exact ⟨type, size, htype, hsize, guarded_of (by omega) _ _, hsizeNat⟩

/-- What a header that was read is like. -/
lemma header_of_reads {size : UInt32} {sum : ℕ} (hheader : i + 8 ≤ payload.length)
    (hsize : long payload (i + 4) = .ok size) (hsum : lengthSum size (i + 8) = .ok sum) :
    sum = size.toNat + (i + 8) ∧ sum < 2 ^ 32 ∧ ((payload.drop i).take 8).length = 8 ∧
      longAt ((payload.drop i).take 8) 4 = size.toNat := by
  obtain ⟨hlt, rfl⟩ := guarded_eq_ok_iff.mp hsum
  refine ⟨rfl, hlt, length_take_drop hheader, ?_⟩
  rw [longAt_take_drop (by omega) hheader, (long_eq_ok_iff.mp hsize).2]

/-- **A routing info that is read is complete.** Induction on the rounds of the loop. -/
lemma routingInfo_of_fine (hi : i ≤ payload.length) (h : Fine (readRoutingInfo payload fuel i)) :
    RoutingInfo payload.length (payload.drop i) := by
  induction fuel generalizing i with
  | zero => exact absurd h (not_fine_error _)
  | succ fuel ih =>
    rw [readRoutingInfo] at h
    split at h
    · rename_i hheader
      obtain ⟨type, -, h⟩ := fine_bind_iff.mp h
      obtain ⟨clientSize, hclientSize, h⟩ := fine_bind_iff.mp h
      obtain ⟨sum, hsum, h⟩ := fine_bind_iff.mp h
      obtain ⟨rfl, hsum, hlength, hlongAt⟩ := header_of_reads hheader hclientSize hsum
      have hrest : (payload.drop (i + 8)).length = payload.length - (i + 8) := List.length_drop
      rw [drop_eq_take_append (n := 8)]
      split at h
      · rename_i hlong
        exact .refused hlength (by rw [hlongAt, hrest]; omega) (by rw [hlongAt, hrest]; omega)
      · rename_i hfits
        split at h
        · rename_i hclient
          obtain ⟨client, -, h⟩ := fine_bind_iff.mp h
          obtain ⟨⟨services, j⟩, hservices, h⟩ := fine_bind_iff.mp h
          obtain ⟨hblocks, hle⟩ :=
            @serviceBlocks_of_readServices payload (i + 10) 0 _ _ _ _ hclient hservices
          obtain ⟨rest, hinfo, -⟩ := fine_bind_iff.mp h
          rw [@drop_eq_take_append payload (i + 8) 2]
          refine .entry hlength (length_take_drop hclient) ?_ ?_ (ih hle ⟨rest, hinfo⟩)
          · rw [hlongAt, ← drop_eq_take_append, hrest]
            omega
          · rw [hlongAt]
            exact hblocks
        · rename_i hclient
          exact .ended hlength (by rw [hlongAt, hrest]; omega) (by rw [hrest]; omega)
    · rename_i hshort
      exact .short (by rw [List.length_drop]; omega)

/-- **A complete routing info is read.** Induction on its entries; a round of the loop takes eight
bytes at least. -/
lemma fine_of_routingInfo {rest : List UInt8} (h : RoutingInfo payload.length rest)
    (hsize : payload.length < 2 ^ 32) (hrest : rest = payload.drop i) (hi : i ≤ payload.length)
    (hfuel : payload.length - i < fuel) : Fine (readRoutingInfo payload fuel i) := by
  induction h generalizing i fuel with
  | @short rest hshort =>
    obtain ⟨fuel, rfl⟩ := Nat.exists_eq_add_one_of_ne_zero (Nat.ne_zero_of_lt hfuel)
    rw [hrest, List.length_drop] at hshort
    rw [readRoutingInfo, if_neg (by omega)]
    exact fine_pure _
  | @refused header rest hheader hsum hlong =>
    obtain ⟨fuel, rfl⟩ := Nat.exists_eq_add_one_of_ne_zero (Nat.ne_zero_of_lt hfuel)
    obtain ⟨hle, -, hlength, hlongAt⟩ := header_eq hrest hheader hi
    obtain ⟨type, clientSize, htype, hclientSize, hsum', hnat⟩ := exists_header hle (by omega)
    rw [readRoutingInfo, if_pos (by omega)]
    refine fine_bind_iff.mpr ⟨type, htype, fine_bind_iff.mpr ⟨clientSize, hclientSize, ?_⟩⟩
    refine fine_bind_iff.mpr ⟨_, hsum', ?_⟩
    rw [if_pos (by omega)]
    exact fine_pure _
  | @ended header rest hheader hfits hnoClient =>
    obtain ⟨fuel, rfl⟩ := Nat.exists_eq_add_one_of_ne_zero (Nat.ne_zero_of_lt hfuel)
    obtain ⟨hle, -, hlength, hlongAt⟩ := header_eq hrest hheader hi
    obtain ⟨type, clientSize, htype, hclientSize, hsum', hnat⟩ := exists_header hle (by omega)
    obtain ⟨fuel, rfl⟩ := @Nat.exists_eq_add_one_of_ne_zero fuel (by omega)
    rw [readRoutingInfo, if_pos (by omega)]
    refine fine_bind_iff.mpr ⟨type, htype, fine_bind_iff.mpr ⟨clientSize, hclientSize, ?_⟩⟩
    refine fine_bind_iff.mpr ⟨_, hsum', ?_⟩
    rw [if_neg (by omega), if_neg (by omega), readRoutingInfo, if_neg (by omega)]
    exact fine_pure _
  | @entry header client services rest hheader hclient hfits hblocks hinfo ih =>
    obtain ⟨fuel, rfl⟩ := Nat.exists_eq_add_one_of_ne_zero (Nat.ne_zero_of_lt hfuel)
    obtain ⟨hle, hrest', hlength, hlongAt⟩ := header_eq hrest hheader hi
    obtain ⟨hle', hservices⟩ := append_eq_drop hrest' hle
    rw [hclient] at hle' hservices
    obtain ⟨type, clientSize, htype, hclientSize, hsum', hnat⟩ := exists_header hle (by omega)
    obtain ⟨its, hits⟩ := @fine_word payload (i + 8) (by omega)
    obtain ⟨read, j, hread, hrest, hj⟩ := @readServices_of_serviceBlocks payload (i + 10) 0
      (payload.length + 1) clientSize _ _ _ hblocks (by omega) hservices hle' (by omega)
    obtain ⟨entries, hentries⟩ := @ih (i + 10 + j) fuel hrest hj (by omega)
    rw [readRoutingInfo, if_pos (by omega)]
    refine fine_bind_iff.mpr ⟨type, htype, fine_bind_iff.mpr ⟨clientSize, hclientSize, ?_⟩⟩
    refine fine_bind_iff.mpr ⟨_, hsum', ?_⟩
    rw [if_neg (by omega), if_pos (by omega)]
    refine fine_bind_iff.mpr ⟨its, hits, fine_bind_iff.mpr ⟨(read, j), hread, ?_⟩⟩
    exact fine_bind_iff.mpr ⟨entries, hentries, fine_pure _⟩

/-- **An offered services info that is read is complete.** -/
lemma offeredServicesInfo_of_fine (hi : i ≤ payload.length)
    (h : Fine (readOfferedServicesInfo payload fuel i)) :
    OfferedServicesInfo payload.length (payload.drop i) := by
  induction fuel generalizing i with
  | zero => exact absurd h (not_fine_error _)
  | succ fuel ih =>
    rw [readOfferedServicesInfo] at h
    split at h
    · rename_i hheader
      obtain ⟨type, -, h⟩ := fine_bind_iff.mp h
      obtain ⟨entrySize, hentrySize, h⟩ := fine_bind_iff.mp h
      obtain ⟨sum, hsum, h⟩ := fine_bind_iff.mp h
      obtain ⟨rfl, hsum, hlength, hlongAt⟩ := header_of_reads hheader hentrySize hsum
      have hrest : (payload.drop (i + 8)).length = payload.length - (i + 8) := List.length_drop
      rw [drop_eq_take_append (n := 8)]
      split at h
      · rename_i hlong
        exact .refused hlength (by rw [hlongAt, hrest]; omega) (by rw [hlongAt, hrest]; omega)
      · rename_i hfits
        split at h
        · rename_i hroom
          iterate 4 obtain ⟨_, h⟩ := h.exists_of_bind
          have hservice : i + 8 + 9 ≤ payload.length := by omega
          rw [@drop_eq_take_append payload (i + 8) 9]
          refine .entry hlength (length_take_drop hservice) ?_ (by rw [hlongAt]; exact hroom)
            (ih hservice h.of_bind)
          rw [hlongAt, ← drop_eq_take_append, hrest]
          omega
        · rename_i hroom
          refine .small hlength (by rw [hlongAt, hrest]; omega) (by rw [hlongAt]; omega) ?_
          exact ih hheader h
    · rename_i hshort
      exact .short (by rw [List.length_drop]; omega)

/-- **A complete offered services info is read.** -/
lemma fine_of_offeredServicesInfo {rest : List UInt8} (h : OfferedServicesInfo payload.length rest)
    (hsize : payload.length < 2 ^ 32) (hrest : rest = payload.drop i) (hi : i ≤ payload.length)
    (hfuel : payload.length - i < fuel) : Fine (readOfferedServicesInfo payload fuel i) := by
  induction h generalizing i fuel with
  | @short rest hshort =>
    obtain ⟨fuel, rfl⟩ := Nat.exists_eq_add_one_of_ne_zero (Nat.ne_zero_of_lt hfuel)
    rw [hrest, List.length_drop] at hshort
    rw [readOfferedServicesInfo, if_neg (by omega)]
    exact fine_pure _
  | @refused header rest hheader hsum hlong =>
    obtain ⟨fuel, rfl⟩ := Nat.exists_eq_add_one_of_ne_zero (Nat.ne_zero_of_lt hfuel)
    obtain ⟨hle, -, hlength, hlongAt⟩ := header_eq hrest hheader hi
    obtain ⟨type, entrySize, htype, hentrySize, hsum', hnat⟩ := exists_header hle (by omega)
    rw [readOfferedServicesInfo, if_pos (by omega)]
    refine fine_bind_iff.mpr ⟨type, htype, fine_bind_iff.mpr ⟨entrySize, hentrySize, ?_⟩⟩
    refine fine_bind_iff.mpr ⟨_, hsum', ?_⟩
    rw [if_pos (by omega)]
    exact fine_pure _
  | @small header rest hheader hfits hnoService hinfo ih =>
    obtain ⟨fuel, rfl⟩ := Nat.exists_eq_add_one_of_ne_zero (Nat.ne_zero_of_lt hfuel)
    obtain ⟨hle, hrest', hlength, hlongAt⟩ := header_eq hrest hheader hi
    obtain ⟨type, entrySize, htype, hentrySize, hsum', hnat⟩ := exists_header hle (by omega)
    rw [readOfferedServicesInfo, if_pos (by omega)]
    refine fine_bind_iff.mpr ⟨type, htype, fine_bind_iff.mpr ⟨entrySize, hentrySize, ?_⟩⟩
    refine fine_bind_iff.mpr ⟨_, hsum', ?_⟩
    rw [if_neg (by omega), if_neg (by omega)]
    exact ih hrest' hle (by omega)
  | @entry header service rest hheader hservice hfits hroom hinfo ih =>
    obtain ⟨fuel, rfl⟩ := Nat.exists_eq_add_one_of_ne_zero (Nat.ne_zero_of_lt hfuel)
    obtain ⟨hle, hrest', hlength, hlongAt⟩ := header_eq hrest hheader hi
    obtain ⟨hle', hrest''⟩ := append_eq_drop hrest' hle
    rw [hservice] at hle' hrest''
    obtain ⟨type, entrySize, htype, hentrySize, hsum', hnat⟩ := exists_header hle (by omega)
    rw [readOfferedServicesInfo, if_pos (by omega)]
    refine fine_bind_iff.mpr ⟨type, htype, fine_bind_iff.mpr ⟨entrySize, hentrySize, ?_⟩⟩
    refine fine_bind_iff.mpr ⟨_, hsum', ?_⟩
    rw [if_neg (by omega), if_pos (by omega)]
    refine (fine_word (by omega)).bind fun its => (fine_word (by omega)).bind fun instance_ => ?_
    refine (fine_byte (by omega)).bind fun major => (fine_long (by omega)).bind fun minor => ?_
    exact (@ih (i + 17) fuel hrest'' hle' (by omega)).bind fun _ => fine_pure _

/-! ## The applications -/

variable {n : ℕ}

/-- The calls pass on no message longer than some bytes. -/
abbrev Sized (n : ℕ) (calls : List ProxyCall) : Prop :=
  ∀ call ∈ calls, ∀ size, ProxyCall.messageSize call = some size → size ≤ n

/-- No call of the proxy exceeds the size. -/
lemma sized_nil : Sized n [] := fun _ h => by cases h

/-- A call of the proxy without a message exceeds no size. -/
lemma sized_singleton {call : ProxyCall} (h : call.messageSize = none) : Sized n [call] := by
  intro call' hcall size hsize
  rw [List.mem_singleton.mp hcall, h] at hsize
  cases hsize

section Fixed

variable (data : List UInt8) (client : UInt16)

/-- A SUBSCRIBE is read inside its bytes by the proxy, whatever its length. -/
lemma yields_subscribe : Yields (Sized n) (subscribe data client) := by
  refine yields_ofSize sized_nil fun h => ?_
  refine (fine_word (by simp [payloadPos, h])).bind_yields fun service => ?_
  refine (fine_word (by simp [payloadPos, h])).bind_yields fun instance_ => ?_
  refine (fine_word (by simp [payloadPos, h])).bind_yields fun eventgroup => ?_
  refine (fine_byte (by simp [payloadPos, h])).bind_yields fun major => ?_
  refine (fine_word (by simp [payloadPos, h])).bind_yields fun event => ?_
  refine (fine_word (by simp [payloadPos, h])).bind_yields fun subscriptionId => ?_
  exact yields_pure (sized_singleton rfl)

/-- An UNSUBSCRIBE is read inside its bytes by the proxy, whatever its length. -/
lemma yields_unsubscribe : Yields (Sized n) (unsubscribe data client) := by
  refine yields_ofSize sized_nil fun h => ?_
  refine (fine_word (by simp [payloadPos, h])).bind_yields fun service => ?_
  refine (fine_word (by simp [payloadPos, h])).bind_yields fun instance_ => ?_
  refine (fine_word (by simp [payloadPos, h])).bind_yields fun eventgroup => ?_
  refine (fine_word (by simp [payloadPos, h])).bind_yields fun event => ?_
  refine (fine_word (by simp [payloadPos, h])).bind_yields fun subscriptionId => ?_
  exact yields_pure (sized_singleton rfl)

/-- An answer to a subscription is read inside its bytes by the proxy, whatever its length. -/
lemma yields_subscribeAnswer {call : UInt16 → UInt16 → UInt16 → UInt16 → UInt16 → ProxyCall}
    (hcall : ∀ a b c d e, (call a b c d e).messageSize = none) :
    Yields (Sized n) (subscribeAnswer data call) := by
  refine yields_ofSize sized_nil fun h => ?_
  refine (fine_word (by simp [payloadPos, h])).bind_yields fun service => ?_
  refine (fine_word (by simp [payloadPos, h])).bind_yields fun instance_ => ?_
  refine (fine_word (by simp [payloadPos, h])).bind_yields fun eventgroup => ?_
  refine (fine_word (by simp [payloadPos, h])).bind_yields fun subscriber => ?_
  refine (fine_word (by simp [payloadPos, h])).bind_yields fun event => ?_
  exact yields_pure (sized_singleton (hcall ..))

/-- An ID_REQUEST is read inside its bytes, whatever its length. -/
lemma yields_idRequest : Yields (Sized n) (idRequest data) := by
  rw [idRequest]
  split
  · exact yields_pure sized_nil
  · rename_i h
    refine (fine_word (by rw [payloadPos]; omega)).bind_yields fun service => ?_
    refine (fine_word (by rw [payloadPos]; omega)).bind_yields fun instance_ => ?_
    refine (fine_byte (by rw [payloadPos]; omega)).bind_yields fun major => ?_
    refine (fine_bool (by rw [payloadPos]; omega)).bind_yields fun reliable => ?_
    exact yields_pure (sized_singleton rfl)

end Fixed

section Variable

variable {data : List UInt8} {itsLength : UInt32}

/-- A SEND has to have the bytes by which its size is reduced. -/
lemma yields_send_iff (hsize : itsLength.toNat + 7 = data.length) :
    Yields (Sized itsLength.toNat) (send data itsLength) ↔ 5 ≤ itsLength.toNat := by
  constructor
  · intro h
    have hfine := h.fine
    iterate 3 obtain ⟨_, hfine⟩ := hfine.exists_of_bind
    exact StubCommand.fine_reduced_iff.mp hfine.of_bind
  · intro h
    have hle : (2 + 1 + 1 + 1 : UInt32) ≤ itsLength := by
      rw [UInt32.le_iff_toNat_le]
      exact le_trans (by decide) h
    have hreduced := StubCommand.sized_reduced hle
    refine (fine_word (by omega)).bind_yields fun instance_ => ?_
    refine (fine_bool (by omega)).bind_yields fun reliable => ?_
    refine (fine_bool (by omega)).bind_yields fun isValidCrc => ?_
    have hbytes : payloadPos + (itsLength - (2 + 1 + 1 + 1)).toNat ≤ data.length := by
      rw [payloadPos]
      omega
    refine ⟨_, bind_eq_ok_iff.mpr ⟨_, guarded_of hle _ _, bind_eq_ok_iff.mpr
      ⟨_, guarded_of hbytes _ _, rfl⟩⟩, fun call hcall size hsize => ?_⟩
    rw [List.mem_singleton.mp hcall] at hsize
    cases hsize
    exact (List.length_take_le _ _).trans hreduced

/-- An info is taken from the routing manager only. -/
lemma yields_fromRoutingHost_iff {cfg : ProxyConfig} {calls : Except Fault (List ProxyCall)} :
    Yields (Sized n) (fromRoutingHost cfg calls) ↔
      ((!cfg.isSecurityEnabled || cfg.boundClient == cfg.routingHostId) = true →
        Yields (Sized n) calls) := by
  rw [fromRoutingHost]
  split
  · rename_i h
    exact ⟨fun hcalls _ => hcalls, fun hcalls => hcalls h⟩
  · rename_i h
    exact iff_of_true (yields_pure sized_nil) fun h' => absurd h' h

/-- A payload is taken apart. -/
lemma yields_info_iff {α : Type} {read : List UInt8 → Except Fault α} {call : α → ProxyCall}
    (hsize : itsLength.toNat + 7 = data.length) (hcall : ∀ a, (call a).messageSize = none) :
    Yields (Sized n) (do
      let payload ← bytes data payloadPos itsLength.toNat
      let a ← read payload
      pure [call a]) ↔ Fine (read (data.drop 7)) := by
  have hbytes : bytes data payloadPos itsLength.toNat = .ok (data.drop 7) := by
    have htake : (data.drop 7).take itsLength.toNat = data.drop 7 :=
      List.take_of_length_le (by rw [List.length_drop]; omega)
    rw [bytes, payloadPos, htake]
    exact guarded_of (by omega) _ _
  rw [hbytes]
  constructor
  · intro h
    exact Fine.of_bind (f := fun a => pure [call a]) h.fine
  · intro h
    exact h.bind_yields fun a => yields_pure (sized_singleton (hcall a))

end Variable

/-- What the header of a command says. -/
lemma onMessage_eq (cfg : ProxyConfig) (c : FramedCommand) : onMessage cfg c.data =
    if cfg.isSecurityEnabled && cfg.boundClient != cfg.routingHostId &&
      cfg.boundClient != c.client then pure []
    else dispatch cfg c.data c.client (LocalServer.commandSize c.data 0) c.type := by
  have hheaded := c.headed
  have hbyte : byte c.data 0 = .ok (c.data.getD 0 0) := guarded_of (by omega) _ _
  have hclient : word c.data 1 = .ok c.client := guarded_of (by omega) _ _
  have hlong : long c.data 3 = .ok (LocalServer.commandSize c.data 0) := guarded_of (by omega) _ _
  rw [onMessage, if_pos (by omega), hbyte]
  change (word c.data 1 >>= _) = _
  rw [hclient]
  change (long c.data 3 >>= _) = _
  rw [hlong]
  rfl

/-- **The parser of an application is safe** on a command exactly if it is complete. -/
lemma safe_iff (cfg : ProxyConfig) (c : FramedCommand) : Safe cfg c.data ↔ Complete cfg c := by
  have hsize : (LocalServer.commandSize c.data 0).toNat + 7 = c.data.length := by
    have hframed := c.framed
    have hheaded := c.headed
    omega
  have hlength := c.length_payload_lt
  rw [Safe, onMessage_eq, Complete]
  split
  · rename_i hskip
    exact iff_of_true (yields_pure sized_nil) (.inl hskip)
  · rename_i hskip
    rw [or_iff_right hskip]
    cases htype : c.type with
    | send =>
      dsimp only
      rw [c.length_payload, ← c.framed]
      exact yields_send_iff hsize
    | routingInfo =>
      refine yields_fromRoutingHost_iff.trans (imp_congr_right fun _ => ?_)
      rw [yields_info_iff hsize fun _ => rfl]
      constructor
      · exact routingInfo_of_fine (Nat.zero_le _)
      · intro h
        exact fine_of_routingInfo h hlength rfl (Nat.zero_le _) (Nat.lt_succ_self _)
    | offeredServicesResponse =>
      refine yields_fromRoutingHost_iff.trans (imp_congr_right fun _ => ?_)
      rw [yields_info_iff hsize fun _ => rfl]
      constructor
      · exact offeredServicesInfo_of_fine (Nat.zero_le _)
      · intro h
        exact fine_of_offeredServicesInfo h hlength rfl (Nat.zero_le _) (Nat.lt_succ_self _)
    | ping => exact iff_of_true (yields_pure (sized_singleton rfl)) trivial
    | subscribe => exact iff_of_true (yields_subscribe _ _) trivial
    | unsubscribe => exact iff_of_true (yields_unsubscribe _ _) trivial
    | subscribeAck => exact iff_of_true (yields_subscribeAnswer _ fun _ _ _ _ _ => rfl) trivial
    | subscribeNack => exact iff_of_true (yields_subscribeAnswer _ fun _ _ _ _ _ => rfl) trivial
    | idRequest => exact iff_of_true (yields_idRequest _) trivial
    | registerApplication | deregisterApplication | registeredAck | pong | offerService
    | stopOfferService | requestService | releaseService | notify | notifyOne | registerEvent
    | unregisterEvent | idResponse | offeredServicesRequest | unsubscribeAck | other =>
      exact iff_of_true (yields_pure sized_nil) trivial

end ProxyCommand

/-! ## Main results -/

/-- **When the parsers are safe.** Both parsers get to their end on a command, read only inside of it
and pass on no message longer than its payload, exactly if the command is complete for both.

**Proof sketch.** Command by command. Those with a size check read less than they check for. The loops
over requests and eventgroups stay below the size of the payload. What remains are the commands
without a check, and the infos, whose loops are followed entry by entry and block by block. -/
theorem safe_iff_complete (stub : StubConfig) (proxy : ProxyConfig) (c : FramedCommand) :
    StubCommand.Safe stub c.data ∧ ProxyCommand.Safe proxy c.data ↔
      StubCommand.Complete stub c ∧ ProxyCommand.Complete proxy c :=
  and_congr (StubCommand.safe_iff stub c) (ProxyCommand.safe_iff proxy c)

/-- A SEND without payload. -/
def emptySend : FramedCommand where
  data := [0x18, 0x01, 0x00, 0x00, 0x00, 0x00, 0x00]
  headed := by decide
  framed := by decide

/-- The routing manager reads the service behind a SEND without payload. -/
theorem not_safe_send : ¬ StubCommand.Safe
    { isSecurityEnabled := false, isClientAllowed := fun _ _ _ => true
      isOfferedRemote := fun _ _ => true, boundClient := 1, client := 0 } emptySend.data := by
  rintro ⟨calls, h, -⟩
  have hfault : StubCommand.onMessage
      { isSecurityEnabled := false, isClientAllowed := fun _ _ _ => true
        isOfferedRemote := fun _ _ => true, boundClient := 1, client := 0 } emptySend.data =
      .error .outside := by rfl
  rw [hfault] at h
  cases h

end Vsomeip
