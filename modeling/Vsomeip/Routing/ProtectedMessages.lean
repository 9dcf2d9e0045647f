import Vsomeip.Routing.CrcVerdict

set_option relaxedAutoImplicit false
set_option autoImplicit false

/-!
# Protected messages from host to host

`routing_manager_impl::send` and `send_to` run the protector of a message that goes to the network over
its payload. The protectors of profile 01 count the messages that they protect. The other host checks
the message with a checker of its own and hands the verdict on to its applications.

What becomes of the bytes between the two hosts, which is a matter of the endpoints, is left out: they
arrive as they were sent, or with a byte that was changed.

## Main definitions

* `Vsomeip.Protector`, `Vsomeip.RouterConfig.customProtectors` — the protectors of a configuration.
* `Vsomeip.MessageRouter.GoesOut` — a message that `send` passes on to the network.
* `Vsomeip.Sending`, `Vsomeip.Protectors.send` — a call that sends a message, and what is protected.
* `Vsomeip.RouterConfig.transmit` — a message after others, as it is received.
* `Vsomeip.Protector.Fits` — a payload that a protector covers.

## Main results

* `Vsomeip.MessageRouter.send_of_goesOut` — the local copies of a message that goes to the network.
* `Vsomeip.Protectors.run_advance` — a protector counts the messages of its identifier.
* `Vsomeip.protected_run` — what was sent is valid with the next counter, and a change is noticed.
-/

namespace Vsomeip

open Function (update)

/-! ## The counter of profile 01 -/

namespace Profile01

variable {cfg : Config} {buffer : List UInt8} {counter : UInt8}

/-- The nibble at the place of the counter is this one. -/
def Carries (cfg : Config) (buffer : List UInt8) (counter : UInt8) : Prop :=
  if cfg.counterOffset % 8 = 0 then
    (buffer.getD (cfg.counterOffset.toNat / 8) 0 : UInt8) &&& 0x0F = counter &&& 0x0F
  else
    (buffer.getD (cfg.counterOffset.toNat / 8) 0 : UInt8) &&& 0xF0 =
      (counter <<< (4 : UInt8)) &&& 0xF0

/-- Neither the CRC nor the nibble of the data id is written to the place of the counter. -/
structure CounterApart (cfg : Config) : Prop where
  crc : cfg.counterOffset.toNat / 8 ≠ cfg.crcOffset.toNat
  nibble : cfg.dataIdMode = .nibble →
    cfg.counterOffset.toNat / 8 = cfg.dataIdNibbleOffset.toNat / 8 →
      ¬ (cfg.counterOffset % 8 = 0 ↔ cfg.dataIdNibbleOffset % 8 = 0)

/-- A mask over two parts of a byte. -/
lemma and_or_distrib_right (x y z : UInt8) : (x ||| y) &&& z = (x &&& z) ||| (y &&& z) :=
  UInt8.toBitVec_inj.mp BitVec.and_or_distrib_right

/-- Of a byte that is put together by two masks, a third one tells what it has in common with them. -/
lemma masked (x y a b c : UInt8) :
    (x &&& a ||| y &&& b) &&& c = x &&& (a &&& c) ||| y &&& (b &&& c) := by
  rw [and_or_distrib_right, UInt8.and_assoc, UInt8.and_assoc]

/-- The nibble that is written. -/
lemma written_nibble (x y : UInt8) :
    (x &&& 0xF0 ||| y &&& 0x0F) &&& 0x0F = y &&& 0x0F ∧
      (x &&& 0x0F ||| y &&& 0xF0) &&& 0xF0 = y &&& 0xF0 := by
  constructor
  · rw [masked]
    exact (congrArg (· ||| y &&& 0x0F) UInt8.and_zero).trans UInt8.zero_or
  · rw [masked]
    exact (congrArg (· ||| y &&& 0xF0) UInt8.and_zero).trans UInt8.zero_or

/-- The nibble that is kept. -/
lemma kept_nibble (x y : UInt8) :
    (x &&& 0xF0 ||| y &&& 0x0F) &&& 0xF0 = x &&& 0xF0 ∧
      (x &&& 0x0F ||| y &&& 0xF0) &&& 0x0F = x &&& 0x0F := by
  constructor
  · rw [UInt8.or_comm]
    exact (written_nibble y x).2
  · rw [UInt8.or_comm]
    exact (written_nibble y x).1

/-- A byte that is set is found there. -/
lemma getD_set_self {i : ℕ} (hi : i < buffer.length) (b : UInt8) : (buffer.set i b).getD i 0 = b := by
  rw [List.getD_eq_getElem?_getD, List.getElem?_set_self hi, Option.getD_some]

/-- A byte that is set changes no other. -/
lemma getD_set_ne {i j : ℕ} (hij : i ≠ j) (b : UInt8) :
    (buffer.set i b).getD j 0 = buffer.getD j 0 := by
  rw [List.getD_eq_getElem?_getD, List.getElem?_set_ne hij, List.getD_eq_getElem?_getD]

/-- The counter is written to its place. -/
lemma carries_writeCounter (hin : cfg.counterOffset.toNat / 8 < buffer.length) (counter : UInt8) :
    Carries cfg (writeCounter cfg buffer counter) counter := by
  rw [Carries, writeCounter, writeNibble, getD_set_self hin]
  split_ifs
  · exact (written_nibble _ _).1
  · exact (written_nibble _ _).2

/-- The nibble of the data id leaves it there. -/
lemma carries_writeDataId (hapart : CounterApart cfg) (h : Carries cfg buffer counter) :
    Carries cfg (writeDataId cfg buffer) counter := by
  rw [writeDataId]
  split_ifs with hnibble
  · by_cases hbyte : cfg.counterOffset.toNat / 8 = cfg.dataIdNibbleOffset.toNat / 8
    · have hother := hapart.nibble hnibble hbyte
      by_cases hin : cfg.dataIdNibbleOffset.toNat / 8 < buffer.length
      · rw [Carries] at h ⊢
        rw [writeNibble, hbyte, getD_set_self hin]
        rw [hbyte] at h
        by_cases hlow : cfg.counterOffset % 8 = 0
        · rw [if_pos hlow] at h ⊢
          rw [if_neg (fun hd => hother (iff_of_true hlow hd)), (kept_nibble _ _).2]
          exact h
        · rw [if_neg hlow] at h ⊢
          rw [if_pos (by_contra fun hd => hother (iff_of_false hlow hd)), (kept_nibble _ _).1]
          exact h
      · rw [writeNibble, List.set_eq_of_length_le (Nat.not_lt.mp hin)]
        exact h
    · rw [Carries] at h ⊢
      rw [writeNibble, getD_set_ne (Ne.symm hbyte)]
      exact h
  · exact h

/-- So a protected buffer has the counter. -/
lemma carries_protect (hapart : CounterApart cfg) (hcov : Covers cfg buffer.length)
    (hvalid : isBufferLengthValid cfg buffer) (counter : UInt8) :
    Carries cfg (protect cfg buffer counter).1 counter := by
  have hwritten := carries_writeDataId hapart (carries_writeCounter hcov.counterOffset counter)
  rw [protect, if_pos hvalid]
  dsimp only
  rw [Carries] at hwritten ⊢
  rw [writeCrc, getD_set_ne (Ne.symm hapart.crc)]
  exact hwritten

/-- The counter goes from 0 to 14. -/
lemma incrementCounter_ofNat (k : ℕ) :
    incrementCounter (UInt8.ofNat (k % 15)) = UInt8.ofNat ((k + 1) % 15) := by
  have hk : k % 15 < 15 := Nat.mod_lt k (by decide)
  have hnext : (k + 1) % 15 = (k % 15 + 1) % 15 := by omega
  rw [hnext]
  generalize k % 15 = j at hk ⊢
  revert j
  decide

/-- Profile 01 keeps the length of the buffer. -/
lemma length_protect (cfg : Config) (buffer : List UInt8) (counter : UInt8) :
    (protect cfg buffer counter).1.length = buffer.length := by
  rw [protect]
  split_ifs
  · simp [writeCrc, length_written]
  · rfl

end Profile01

/-! ## Protectors -/

/-- A protector of `custom_protectors`, with its counter. -/
inductive Protector
  | profile01 (cfg : Profile01.Config) (counter : UInt8)
  | custom (cfg : ProfileCustom.Config)

namespace Protector

/-- `protect`. -/
def protect : Protector → List UInt8 → List UInt8 × Protector
  | profile01 cfg counter, buffer =>
    ((Profile01.protect cfg buffer counter).1,
      profile01 cfg (Profile01.protect cfg buffer counter).2)
  | custom cfg, buffer => (ProfileCustom.protect cfg buffer, custom cfg)

/-- The checker with the same configuration. -/
def checker : Protector → Checker
  | profile01 cfg _ => .profile01 cfg
  | custom cfg => .custom cfg

/-- The CRC covers a payload of this size, which is long enough. -/
def Fits : Protector → ℕ → Prop
  | profile01 cfg _, size => Profile01.Covers cfg size ∧ cfg.dataLength.toNat / 8 + 1 ≤ size
  | custom cfg, size => cfg.crcOffset.toNat + 4 ≤ size

/-- The first byte that is protected. -/
def first : Protector → ℕ
  | profile01 .. => 0
  | custom cfg => cfg.crcOffset.toNat

variable {p : Protector} {buffer : List UInt8}

/-- A protector keeps the length of the buffer. -/
@[simp] lemma length_protect (p : Protector) (buffer : List UInt8) :
    (p.protect buffer).1.length = buffer.length := by
  cases p with
  | profile01 cfg counter => exact Profile01.length_protect cfg buffer counter
  | custom cfg =>
    rw [protect, ProfileCustom.protect]
    split_ifs
    · exact ProfileCustom.length_writeCrc cfg buffer _
    · rfl

/-- What the CRC of profile 01 covers is a valid buffer. -/
lemma isBufferLengthValid_of_fits {cfg : Profile01.Config} {counter : UInt8}
    (h : (profile01 cfg counter).Fits buffer.length) : Profile01.isBufferLengthValid cfg buffer :=
  ⟨h.2, h.1.crcOffset.le, h.1.counterOffset.le, h.1.dataIdNibbleOffset.le⟩

/-- What a protector has written is accepted. -/
lemma check_protect (h : p.Fits buffer.length) : p.checker.check (p.protect buffer).1 = .e2eOk := by
  cases p with
  | profile01 cfg counter =>
    exact Profile01.check_protect h.1 (isBufferLengthValid_of_fits h) counter
  | custom cfg => exact ProfileCustom.check_protect h

/-- A change of a byte is noticed. -/
lemma check_set_protect (h : p.Fits buffer.length) {i : ℕ} {b c : UInt8} (hfirst : p.first ≤ i)
    (hi : (p.protect buffer).1[i]? = some c) (hb : b ≠ c) :
    p.checker.check ((p.protect buffer).1.set i b) = .e2eWrongCrc := by
  cases p with
  | profile01 cfg counter =>
    exact Profile01.check_set_protect h.1 (isBufferLengthValid_of_fits h) counter hi hb
  | custom cfg => exact ProfileCustom.check_set_protect h hi hb hfirst

/-! ### Protectors that have protected some messages -/

/-- A payload after which the counter goes on. Profile 01 leaves a payload alone that is too short. -/
def Counts : Protector → List UInt8 → Prop
  | profile01 cfg _, buffer => Profile01.isBufferLengthValid cfg buffer
  | custom _, _ => True

instance : (p : Protector) → (buffer : List UInt8) → Decidable (p.Counts buffer)
  | profile01 cfg _, buffer => inferInstanceAs (Decidable (Profile01.isBufferLengthValid cfg buffer))
  | custom _, _ => inferInstanceAs (Decidable True)

/-- The protector after some payloads that count. -/
def advance : Protector → ℕ → Protector
  | profile01 cfg counter, k => profile01 cfg (Profile01.incrementCounter^[k] counter)
  | custom cfg, _ => custom cfg

/-- A protector that has sent nothing more. -/
lemma advance_zero (p : Protector) : p.advance 0 = p := by
  cases p <;> rfl

/-- The checker does not depend on what was sent. -/
@[simp] lemma checker_advance (p : Protector) (k : ℕ) : (p.advance k).checker = p.checker := by
  cases p <;> rfl

/-- The position of the protection does not depend on what was sent. -/
@[simp] lemma first_advance (p : Protector) (k : ℕ) : (p.advance k).first = p.first := by
  cases p <;> rfl

/-- Whether a buffer is large enough does not depend on what was sent. -/
@[simp] lemma fits_advance (p : Protector) (k size : ℕ) : (p.advance k).Fits size ↔ p.Fits size := by
  cases p <;> rfl

/-- One more payload. -/
lemma protect_advance (p : Protector) (k : ℕ) (buffer : List UInt8) :
    ((p.advance k).protect buffer).2 = p.advance (if p.Counts buffer then k + 1 else k) := by
  cases p with
  | custom cfg => rfl
  | profile01 cfg counter =>
    by_cases hvalid : Profile01.isBufferLengthValid cfg buffer
    · rw [if_pos (show (profile01 cfg counter).Counts buffer from hvalid)]
      simp only [advance, protect, Profile01.protect, if_pos hvalid, Function.iterate_succ_apply']
    · rw [if_neg (show ¬ (profile01 cfg counter).Counts buffer from hvalid)]
      simp only [advance, protect, Profile01.protect, if_neg hvalid]

/-- The counter of a new protector is 0. -/
def IsNew : Protector → Prop
  | profile01 _ counter => counter = 0
  | custom _ => True

end Protector

/-- The protector of an entry, if it is to have one. Its counter starts at 0. -/
def E2eEntry.protector (e : E2eEntry) : Option Protector :=
  if e.variant = "protector" ∨ e.variant = "both" then
    if e.profile = "CRC8" then some (.profile01 e.config 0)
    else if e.profile = "CRC32" then some (.custom ⟨e.config.crcOffset⟩)
    else none
  else none

/-- `custom_protectors`. -/
abbrev Protectors : Type := UInt16 × UInt16 → Option Protector

/-- `custom_protectors`, as `routing_manager_impl::init` fills it. -/
def RouterConfig.customProtectors (cfg : RouterConfig) : Protectors :=
  if cfg.isE2eEnabled then
    cfg.e2e.foldl (fun protectors e =>
      match e.protector with
      | some protector => update protectors (e.serviceId, e.eventId) (some protector)
      | none => protectors) fun _ => none
  else fun _ => none

/-- The protector of an entry has sent nothing. -/
lemma E2eEntry.isNew_of_protector {e : E2eEntry} {p : Protector} (h : e.protector = some p) :
    p.IsNew := by
  rw [protector] at h
  split_ifs at h
  · rw [← Option.some.inj h]
    rfl
  · rw [← Option.some.inj h]
    trivial

/-- The protectors of a configuration are new. -/
lemma RouterConfig.isNew_of_customProtectors {cfg : RouterConfig} {identifier : UInt16 × UInt16}
    {p : Protector} (h : cfg.customProtectors identifier = some p) : p.IsNew := by
  rw [customProtectors] at h
  split at h
  · revert h
    generalize cfg.e2e = entries
    -- the last entry with a protector for the identifier decides
    induction entries using List.reverseRecOn with
    | nil => exact fun h => absurd h (by simp)
    | append_singleton entries e ih =>
      rw [List.foldl_append, List.foldl_cons, List.foldl_nil]
      cases hnew : e.protector with
      | none => exact ih
      | some q =>
        by_cases hid : identifier = (e.serviceId, e.eventId)
        · subst hid
          dsimp only
          rw [Function.update_self]
          intro h
          exact Option.some.inj h ▸ E2eEntry.isNew_of_protector hnew
        · dsimp only
          rw [Function.update_of_ne hid]
          exact ih
  · cases h

/-! ## What is sent -/

namespace MessageRouter

variable {Address : Type}

/-- The client that `send` finds an endpoint for. -/
def localTarget (h : MessageRouter Address) (client : UInt16) (m : HeadedData) (instance_ : UInt16) :
    Option UInt16 :=
  (if isRequest m.type then some (h.findLocalClient (m.service, instance_))
    else if ¬ isNotification m.type then some m.client
    else if client ≠ 0 then some client
    else none).filter h.localEndpoints

/-- Neither the host nor another application is the one that `send` has a message for, so it goes to the
network. -/
def GoesOut (h : MessageRouter Address) (client : UInt16) (m : HeadedData) (instance_ : UInt16) :
    Prop :=
  ¬ (isNotification m.type ∧ client ≠ 0 ∧ client = h.client) ∧
    h.localTarget client m instance_ = none ∧
    ¬ ((m.client = h.client ∧ ¬ isRequest m.type) ∨
      (h.findLocalClient (m.service, instance_) = h.client ∧ isRequest m.type))

instance (h : MessageRouter Address) (client : UInt16) (m : HeadedData) (instance_ : UInt16) :
    Decidable (h.GoesOut client m instance_) := by
  unfold GoesOut; infer_instance

/-- **A message that goes to the network** is given to no local application, but for a notification, which
the local subscribers get. -/
theorem send_of_goesOut {cfg : RouterConfig} {h : MessageRouter Address} {client instance_ : UInt16}
    {m : HeadedData} {flush reliable isValidCrc : Bool} (hout : h.GoesOut client m instance_) :
    h.send cfg client m instance_ flush reliable isValidCrc =
      if isNotification m.type ∧ ¬ (m.service = 0xFFFF ∧ m.method = 0x8100) ∧
          (h.clients.tables.requests.services (m.service, instance_)).isSome then
        h.sendLocalNotification h.client (m.service, instance_) m flush reliable isValidCrc
      else [] := by
  obtain ⟨hselective, htarget, hhost⟩ := hout
  rw [localTarget] at htarget
  rw [send, if_neg hselective]
  dsimp only
  rw [htarget, sendWithoutTarget, if_neg hhost]

end MessageRouter

/-- A message of the service discovery. -/
def ReceivedData.isServiceDiscovery (m : ReceivedData) : Bool :=
  m.service = 0xFFFF ∧ m.method = 0x8100

/-- The service and the method of a message. -/
def ReceivedData.identifier (m : ReceivedData) : UInt16 × UInt16 := (m.service, m.method)

/-- A call that sends a message: `send`, with the tables at that time, or `send_to` to one target. -/
inductive Sending (Address : Type)
  | send (h : MessageRouter Address) (client : UInt16) (m : HeadedData) (instance_ : UInt16)
  | sendTo (m : HeadedData)

variable {Address : Type}

/-- The message. -/
def Sending.message : Sending Address → HeadedData
  | send _ _ m _ | sendTo m => m

/-- The protector of a message is to run. `send` leaves out what it delivers itself, and the messages of
the service discovery. -/
def Sending.isProtected (isE2eEnabled : Bool) : Sending Address → Bool
  | send h client m instance_ =>
    decide (h.GoesOut client m instance_) && isE2eEnabled && !m.isServiceDiscovery
  | sendTo _ => isE2eEnabled

namespace Protectors

variable (isE2eEnabled : Bool) (protectors : Protectors)

/-- The part of `send` and `send_to` that protects a message: the protectors afterwards, and the bytes
that go on. -/
def send (x : Sending Address) : Protectors × List UInt8 :=
  if x.isProtected isE2eEnabled then
    match protectors x.message.identifier with
    | some p =>
      (update protectors x.message.identifier (some (p.protect x.message.payload).2),
        x.message.data.take 16 ++ (p.protect x.message.payload).1)
    | none => (protectors, x.message.data)
  else (protectors, x.message.data)

/-- The protectors after a message. -/
def after (x : Sending Address) : Protectors := (send isE2eEnabled protectors x).1

/-- Its header and its length stay the same. -/
lemma send_snd (x : Sending Address) : ∃ payload : List UInt8,
    (send isE2eEnabled protectors x).2 = x.message.data.take 16 ++ payload ∧
      payload.length = x.message.payload.length := by
  have hsplit : x.message.data = x.message.data.take 16 ++ x.message.payload :=
    (List.take_append_drop 16 x.message.data).symm
  rw [send]
  split_ifs
  · cases protectors x.message.identifier with
    | none => exact ⟨_, hsplit, rfl⟩
    | some p => exact ⟨_, rfl, p.length_protect _⟩
  · exact ⟨_, hsplit, rfl⟩

/-- Sending keeps the length of the message. -/
lemma length_send (x : Sending Address) :
    (send isE2eEnabled protectors x).2.length = x.message.data.length := by
  obtain ⟨payload, hsend, hlength⟩ := send_snd isE2eEnabled protectors x
  rw [hsend, List.length_append, hlength, ReceivedData.payload, ← List.length_append,
    List.take_append_drop]

/-- A message that is sent has a length of 32 bits. -/
lemma length_send_lt (isE2eEnabled : Bool) (protectors : Protectors) (x : Sending Address) :
    (send isE2eEnabled protectors x).2.length < 2 ^ 32 := by
  rw [length_send]
  exact x.message.sized

/-- What the other host receives. -/
def sent (isE2eEnabled : Bool) (protectors : Protectors) (x : Sending Address) : ReceivedData where
  data := (send isE2eEnabled protectors x).2
  sized := length_send_lt isE2eEnabled protectors x

variable {isE2eEnabled protectors} {x : Sending Address}

/-- The bytes of a message that is sent. -/
lemma data_sent : (sent isE2eEnabled protectors x).data = (send isE2eEnabled protectors x).2 := rfl

/-- The header is the one of the message. -/
lemma getD_sent {j : ℕ} (hj : j < 16) :
    (sent isE2eEnabled protectors x).data.getD j 0 = x.message.data.getD j 0 := by
  have hheader : j < (x.message.data.take 16).length := by
    rw [List.length_take_of_le x.message.headed]
    exact hj
  obtain ⟨payload, hsend, -⟩ := send_snd isE2eEnabled protectors x
  rw [data_sent, hsend, List.getD_eq_getElem?_getD, List.getElem?_append_left hheader,
    List.getElem?_take_of_lt hj, List.getD_eq_getElem?_getD]

/-- A message that is sent keeps its identifier. -/
lemma identifier_sent : (sent isE2eEnabled protectors x).identifier = x.message.identifier := by
  simp only [ReceivedData.identifier, ReceivedData.service, ReceivedData.method,
    getD_sent (show 0 < 16 by decide), getD_sent (show 1 < 16 by decide),
    getD_sent (show 2 < 16 by decide), getD_sent (show 3 < 16 by decide)]

/-- The payload is the protected one. -/
lemma payload_sent {p : Protector} (hprotected : x.isProtected isE2eEnabled)
    (hp : protectors x.message.identifier = some p) :
    (sent isE2eEnabled protectors x).payload = (p.protect x.message.payload).1 := by
  have hheader : (x.message.data.take 16).length = 16 := List.length_take_of_le x.message.headed
  rw [ReceivedData.payload, data_sent, send, if_pos hprotected, hp]
  exact List.drop_left' hheader

/-! ### A run of messages -/

/-- A message with an identifier that is protected, and counts. -/
def CountsFor (isE2eEnabled : Bool) (identifier : UInt16 × UInt16) (p : Protector)
    (x : Sending Address) : Prop :=
  x.isProtected isE2eEnabled ∧ x.message.identifier = identifier ∧ p.Counts x.message.payload

instance (isE2eEnabled : Bool) (identifier : UInt16 × UInt16) (p : Protector) (x : Sending Address) :
    Decidable (CountsFor isE2eEnabled identifier p x) := by
  unfold CountsFor; infer_instance

/-- One more message: only those with the identifier that count move its protector. -/
lemma after_advance {identifier : UInt16 × UInt16} {p : Protector} {k : ℕ}
    (h : protectors identifier = some (p.advance k)) (x : Sending Address) :
    after isE2eEnabled protectors x identifier =
      some (p.advance (if CountsFor isE2eEnabled identifier p x then k + 1 else k)) := by
  rw [after, send]
  by_cases hprotected : x.isProtected isE2eEnabled = true
  · rw [if_pos hprotected]
    by_cases hid : x.message.identifier = identifier
    · have hcounts : CountsFor isE2eEnabled identifier p x ↔ p.Counts x.message.payload :=
        ⟨fun hx => hx.2.2, fun hx => ⟨hprotected, hid, hx⟩⟩
      rw [hid, h]
      dsimp only
      rw [Function.update_self, Protector.protect_advance]
      simp only [hcounts]
    · rw [if_neg (fun hx : CountsFor isE2eEnabled identifier p x => hid hx.2.1), ← h]
      cases protectors x.message.identifier with
      | none => rfl
      | some q => exact Function.update_of_ne (Ne.symm hid) _ _
  · rw [if_neg hprotected, if_neg (fun hx : CountsFor isE2eEnabled identifier p x => hprotected hx.1)]
    exact h

/-- The messages of a list that count. -/
def count (isE2eEnabled : Bool) (identifier : UInt16 × UInt16) (p : Protector)
    (earlier : List (Sending Address)) : ℕ :=
  earlier.countP fun x => CountsFor isE2eEnabled identifier p x

/-- After a run, a protector has counted the messages of its identifier. -/
lemma run_advance {identifier : UInt16 × UInt16} {p : Protector}
    (h : protectors identifier = some p) (earlier : List (Sending Address)) :
    earlier.foldl (after isE2eEnabled) protectors identifier =
      some (p.advance (count isE2eEnabled identifier p earlier)) := by
  induction earlier using List.reverseRecOn with
  | nil =>
    rw [List.foldl_nil, h, count, List.countP_nil, Protector.advance_zero]
  | append_singleton earlier x ih =>
    rw [List.foldl_append, List.foldl_cons, List.foldl_nil, after_advance ih x, count, count,
      List.countP_append, List.countP_singleton]
    by_cases hx : CountsFor isE2eEnabled identifier p x <;> simp [hx]

end Protectors

/-- The messages were sent one after the other by a host that is new; this is what the other host
receives of one more. -/
def RouterConfig.transmit (sender : RouterConfig) (earlier : List (Sending Address))
    (x : Sending Address) : ReceivedData :=
  Protectors.sent sender.isE2eEnabled
    (earlier.foldl (Protectors.after sender.isE2eEnabled) sender.customProtectors) x

/-! ## What is received -/

namespace ReceivedData

/-- A message with another byte has a length of 32 bits. -/
lemma length_set_lt (m : ReceivedData) (i : ℕ) (b : UInt8) : (m.data.set i b).length < 2 ^ 32 := by
  rw [List.length_set]
  exact m.sized

/-- A byte of the message is another one. -/
def setByte (m : ReceivedData) (i : ℕ) (b : UInt8) : ReceivedData where
  data := m.data.set i b
  sized := m.length_set_lt i b

variable {m : ReceivedData} {i : ℕ} {b : UInt8}

/-- The bytes of a message after one is changed. -/
lemma data_setByte : (m.setByte i b).data = m.data.set i b := rfl

/-- Behind the header, this does not change what the message is. -/
lemma identifier_setByte (hi : 16 ≤ i) : (m.setByte i b).identifier = m.identifier := by
  have hheader : ∀ j < 16, (m.data.set i b).getD j 0 = m.data.getD j 0 :=
    fun j hj => Profile01.getD_set_ne (by omega) b
  simp only [identifier, service, method, data_setByte, hheader 0 (by decide),
    hheader 1 (by decide), hheader 2 (by decide), hheader 3 (by decide)]

/-- A changed byte behind the header is one of the payload. -/
lemma payload_setByte (hi : 16 ≤ i) : (m.setByte i b).payload = m.payload.set (i - 16) b := by
  rw [payload, data_setByte, List.drop_set, if_neg (by omega), payload]

end ReceivedData

section Receiver

variable {receiver : RouterConfig} {m : ReceivedData} {checker : Checker}

/-- A checker decides if a message is valid. -/
lemma RouterConfig.isCrcValid_of_checker
    (hchecker : receiver.customCheckers m.identifier = some checker) :
    receiver.isCrcValid m = decide (checker.check m.payload = .e2eOk) := by
  rw [isCrcValid_eq_verdict, verdict,
    show receiver.customCheckers (m.service, m.method) = some checker from hchecker]

namespace MessageRouter

variable {h : MessageRouter Address} {r : Receiver}

/-- No application has an endpoint of its own for the service of a message. -/
def Shared (h : MessageRouter Address) (receiver : RouterConfig) (r : Receiver) (m : ReceivedData) :
    Prop :=
  ∀ k m', h.accepted receiver r m = some (k, m') → h.specificClient k r = none

/-- Every application gets a valid message as a valid one. -/
lemma carries_onMessage_of_isCrcValid (hvalid : receiver.isCrcValid m = true) :
    ∀ copy ∈ (h.onMessage receiver r m).2, copy.Carries true := by
  rw [onMessage]
  split
  · exact fun copy hcopy => absurd hcopy List.not_mem_nil
  · rename_i k m' haccepted
    split
    · rename_i copies hcopies
      exact (carries_deliverSpecificEndpointMessage_iff haccepted hcopies).mpr (.inl rfl)
    · rw [hvalid]
      exact fun copy hcopy => carries_onServiceMessage hcopy

/-- So do those without an endpoint of their own if the message is not valid. -/
lemma carries_onMessage_of_shared (hshared : h.Shared receiver r m) :
    ∀ copy ∈ (h.onMessage receiver r m).2, copy.Carries (receiver.isCrcValid m) := by
  rw [onMessage]
  split
  · exact fun copy hcopy => absurd hcopy List.not_mem_nil
  · rename_i k m' haccepted
    rw [deliverSpecificEndpointMessage, hshared k m' haccepted]
    exact fun copy hcopy => carries_onServiceMessage hcopy

end MessageRouter

end Receiver

/-! ## From host to host -/

section Run

variable {sender receiver : RouterConfig} {p : Protector} {x : Sending Address}
  {earlier : List (Sending Address)}

/-- The number of messages before which had the same identifier and were protected. -/
def RouterConfig.protectedBefore (sender : RouterConfig) (p : Protector)
    (earlier : List (Sending Address)) (x : Sending Address) : ℕ :=
  Protectors.count sender.isE2eEnabled x.message.identifier p earlier

/-- The payload is the one of the protector after the messages before. -/
lemma payload_transmit (hprotector : sender.customProtectors x.message.identifier = some p)
    (hprotected : x.isProtected sender.isE2eEnabled) :
    (sender.transmit earlier x).payload =
      ((p.advance (sender.protectedBefore p earlier x)).protect x.message.payload).1 :=
  Protectors.payload_sent hprotected (Protectors.run_advance hprotector earlier)

/-- The checker accepts what was sent. -/
lemma isCrcValid_transmit (hprotector : sender.customProtectors x.message.identifier = some p)
    (hchecker : receiver.customCheckers x.message.identifier = some p.checker)
    (hprotected : x.isProtected sender.isE2eEnabled) (hfits : p.Fits x.message.payload.length) :
    receiver.isCrcValid (sender.transmit earlier x) = true := by
  have hid : receiver.customCheckers (sender.transmit earlier x).identifier = some p.checker := by
    rw [RouterConfig.transmit, Protectors.identifier_sent]
    exact hchecker
  have hcheck := Protector.check_protect
    ((p.fits_advance (sender.protectedBefore p earlier x) _).mpr hfits)
  rw [Protector.checker_advance] at hcheck
  rw [RouterConfig.isCrcValid_of_checker hid, payload_transmit hprotector hprotected, hcheck]
  rfl

/-- It notices that a byte was changed. -/
lemma isCrcValid_setByte_transmit
    (hprotector : sender.customProtectors x.message.identifier = some p)
    (hchecker : receiver.customCheckers x.message.identifier = some p.checker)
    (hprotected : x.isProtected sender.isE2eEnabled) (hfits : p.Fits x.message.payload.length)
    {i : ℕ} {b c : UInt8} (hi : 16 + p.first ≤ i)
    (hc : (sender.transmit earlier x).data[i]? = some c) (hb : b ≠ c) :
    receiver.isCrcValid ((sender.transmit earlier x).setByte i b) = false := by
  have hbehind : 16 ≤ i := by omega
  have hid : receiver.customCheckers ((sender.transmit earlier x).setByte i b).identifier =
      some p.checker := by
    rw [ReceivedData.identifier_setByte hbehind, RouterConfig.transmit, Protectors.identifier_sent]
    exact hchecker
  have hbyte : (sender.transmit earlier x).payload[i - 16]? = some c := by
    rw [ReceivedData.payload, List.getElem?_drop, Nat.add_sub_cancel' hbehind]
    exact hc
  have hfits' := (p.fits_advance (sender.protectedBefore p earlier x) _).mpr hfits
  have hfirst : (p.advance (sender.protectedBefore p earlier x)).first ≤ i - 16 := by
    rw [Protector.first_advance]
    omega
  rw [payload_transmit hprotector hprotected] at hbyte
  have hcheck := Protector.check_set_protect hfits' hfirst hbyte hb
  rw [Protector.checker_advance] at hcheck
  rw [RouterConfig.isCrcValid_of_checker hid, ReceivedData.payload_setByte hbehind,
    payload_transmit hprotector hprotected, hcheck]
  rfl

/-- The counter of a new protector after some messages. -/
lemma Profile01.incrementCounter_iterate (k : ℕ) : incrementCounter^[k] 0 = UInt8.ofNat (k % 15) := by
  induction k with
  | zero => rfl
  | succ k ih => rw [Function.iterate_succ_apply', ih, incrementCounter_ofNat]

/-- The counter that is sent says how many messages were protected before. -/
lemma carries_transmit {cfg : Profile01.Config} {counter : UInt8}
    (hprotector : sender.customProtectors x.message.identifier = some (.profile01 cfg counter))
    (hprotected : x.isProtected sender.isE2eEnabled)
    (hfits : (Protector.profile01 cfg counter).Fits x.message.payload.length)
    (hapart : Profile01.CounterApart cfg) :
    Profile01.Carries cfg (sender.transmit earlier x).payload
      (UInt8.ofNat (sender.protectedBefore (.profile01 cfg counter) earlier x % 15)) := by
  have hnew : counter = 0 := RouterConfig.isNew_of_customProtectors hprotector
  rw [payload_transmit hprotector hprotected, ← Profile01.incrementCounter_iterate, ← hnew]
  exact Profile01.carries_protect hapart hfits.1 (Protector.isBufferLengthValid_of_fits hfits) _

/-- **Protected messages.** A host has sent any messages, and sends one more to the network, whose
payload its protector covers; the other host has a checker with the same configuration.

* The header and the length are those of the message.
* It is valid, and every application gets it as a valid one.
* If the protector is one of profile 01, its counter says how many messages of the same identifier were
  protected before, modulo 15.
* If a protected byte is changed on the way, the message is not valid, and unless an application has an
  endpoint of its own for the service, all get it as one that is not valid. -/
theorem protected_run (earlier : List (Sending Address))
    (hprotector : sender.customProtectors x.message.identifier = some p)
    (hchecker : receiver.customCheckers x.message.identifier = some p.checker)
    (hprotected : x.isProtected sender.isE2eEnabled) (hfits : p.Fits x.message.payload.length) :
    ((sender.transmit earlier x).data.length = x.message.data.length ∧
      ∀ j < 16, (sender.transmit earlier x).data.getD j 0 = x.message.data.getD j 0) ∧
    (receiver.isCrcValid (sender.transmit earlier x) = true ∧
      ∀ (Remote : Type) (h : MessageRouter Remote) (r : Receiver),
        ∀ copy ∈ (h.onMessage receiver r (sender.transmit earlier x)).2, copy.Carries true) ∧
    (∀ cfg counter, p = .profile01 cfg counter → Profile01.CounterApart cfg →
      Profile01.Carries cfg (sender.transmit earlier x).payload
        (UInt8.ofNat (sender.protectedBefore p earlier x % 15))) ∧
    ∀ i b c, 16 + p.first ≤ i → (sender.transmit earlier x).data[i]? = some c → b ≠ c →
      receiver.isCrcValid ((sender.transmit earlier x).setByte i b) = false ∧
      ∀ (Remote : Type) (h : MessageRouter Remote) (r : Receiver),
        h.Shared receiver r ((sender.transmit earlier x).setByte i b) →
        ∀ copy ∈ (h.onMessage receiver r ((sender.transmit earlier x).setByte i b)).2,
          copy.Carries false := by
  have hvalid : receiver.isCrcValid (sender.transmit earlier x) = true :=
    isCrcValid_transmit hprotector hchecker hprotected hfits
  refine ⟨⟨Protectors.length_send _ _ x, fun j hj => Protectors.getD_sent hj⟩,
    ⟨hvalid, fun Remote h r => MessageRouter.carries_onMessage_of_isCrcValid hvalid⟩, ?_, ?_⟩
  · rintro cfg counter rfl hapart
    exact carries_transmit hprotector hprotected hfits hapart
  · intro i b c hi hc hb
    have hchanged := isCrcValid_setByte_transmit hprotector hchecker hprotected hfits hi hc hb
    refine ⟨hchanged, fun Remote h r hshared copy hcopy => ?_⟩
    have hcarries := MessageRouter.carries_onMessage_of_shared hshared copy hcopy
    rw [hchanged] at hcarries
    exact hcarries

end Run

/-! ## A field with a counter -/

/-- The CRC of a notification is its first byte, and the counter is in the second one. -/
def Profile01.counterConfig : Profile01.Config := ⟨0, 0x1234, .both, 24, 8, 12⟩

/-- A host that protects or checks the notifications of the event 0x8001. -/
def RouterConfig.fieldConfig (variant : String) : RouterConfig where
  isE2eEnabled := true
  e2e := [⟨variant, "CRC8", 0x1234, 0x8001, Profile01.counterConfig⟩]
  isSecurityEnabled := false
  isOfferedRemote := fun _ => true
  isClientAllowed := fun _ _ => true
  maxSize := 2 ^ 32
  stray := fun _ => 0

/-- A host without a local application. -/
def MessageRouter.fieldRouter : MessageRouter UInt32 :=
  { exampleRouter with client := 0x200, localEndpoints := fun c => c = routingClient }

/-- A notification. -/
def fieldNotification : HeadedData where
  data := [0x12, 0x34, 0x80, 0x01, 0, 0, 0, 12, 0, 0, 0, 0, 1, 1, 0x02, 0, 0, 0, 42, 7]
  sized := by decide
  headed := by decide

/-- It is sent to all subscribers. -/
def fieldSending : Sending UInt32 := .send MessageRouter.fieldRouter 0 fieldNotification 1

/-- The third of three notifications has the counter 2. -/
theorem protected_run_third :
    Profile01.Carries Profile01.counterConfig
      ((RouterConfig.fieldConfig "protector").transmit [fieldSending, .sendTo fieldNotification]
        fieldSending).payload 2 ∧
    (RouterConfig.fieldConfig "checker").isCrcValid
      ((RouterConfig.fieldConfig "protector").transmit [fieldSending, .sendTo fieldNotification]
        fieldSending) = true := by
  have hrun := protected_run [fieldSending, .sendTo fieldNotification]
    (show (RouterConfig.fieldConfig "protector").customProtectors fieldSending.message.identifier =
      some (.profile01 Profile01.counterConfig 0) from rfl)
    (show (RouterConfig.fieldConfig "checker").customCheckers fieldSending.message.identifier =
      some (.profile01 Profile01.counterConfig) from rfl)
    (by decide) ⟨⟨.inl (by decide), by decide, by decide, by decide⟩, by decide⟩
  exact ⟨hrun.2.2.1 _ _ rfl ⟨by decide, fun h => absurd h (by decide)⟩, hrun.2.1.1⟩

end Vsomeip
