import Vsomeip.Message.Header

set_option relaxedAutoImplicit false
set_option autoImplicit false

/-!
# SOME/IP messages

`message_impl` of `message/src/message_impl.cpp`: a header and a payload. When a message is read, the
size of the payload goes through the capacity of its vector: `set_capacity` reserves `length_ - 8`
bytes, a 32-bit number that wraps for a length field below 8, and `deserialize` reads as many bytes
as the vector has capacity for.

Of `std::vector` the model takes that `reserve` on a new vector gives exactly the capacity that is
asked for, or throws `std::length_error` if this is more than `max_size()`, a number of the platform.

## Main definitions

* `Vsomeip.MessageImpl` — a message.
* `Vsomeip.MessageImpl.serialize`, `Vsomeip.MessageImpl.deserialize` — the codec.
* `Vsomeip.MessageImpl.WellFormed` — the byte strings that are messages.
* `Vsomeip.MessageImpl.Meets` — exactly the messages are accepted, with their bytes as fields.

## Main results

* `Vsomeip.MessageImpl.codec_iff` — when `deserialize` does this, and when it recovers a message from
  what `serialize` has written.
-/

namespace Vsomeip

open Deserializer Serializer

/-- `message_impl`. The payload is a pointer, which may be null. -/
structure MessageImpl where
  header : MessageHeaderImpl
  payload : Option (List UInt8)
deriving DecidableEq

/-- What comes of reading a message. -/
inductive Deserialized
  | lengthError
  | failure
  | message (m : MessageImpl)
deriving DecidableEq

namespace MessageImpl

/-- `VSOMEIP_SOMEIP_HEADER_SIZE`: the bytes of the header that the length field counts. -/
def someipHeaderSize : UInt32 := 8

/-- `message_impl::get_length`, a 32-bit number. -/
def getLength (m : MessageImpl) : UInt32 :=
  someipHeaderSize + UInt32.ofNat (m.payload.getD []).length

/-- `message_impl::serialize`. -/
def serialize (m : MessageImpl) : Serializer := do
  m.header.serialize m.getLength
  match m.payload with
  | some payload => serializeBytes payload
  | none => pure ()

/-- `payload_impl::set_capacity`: the capacity of the vector, unless it throws. -/
def setCapacity (maxSize : ℕ) (capacity : UInt32) : Option ℕ :=
  if maxSize < capacity.toNat then none else some capacity.toNat

/-- `message_impl::deserialize`. -/
def deserialize (maxSize : ℕ) (d : Deserializer) : Deserialized × Deserializer :=
  match MessageHeaderImpl.deserialize d with
  | (none, d) => (.failure, d)
  | (some header, d) =>
    match setCapacity maxSize (header.length - someipHeaderSize) with
    | none => (.lengthError, d)
    | some capacity =>
      match deserializeBytes capacity d with
      | (none, d) => (.failure, d)
      | (some payload, d) => (.message { header, payload := some payload.toList }, d)

/-! ## What the bytes say -/

/-- The fields of the header in the first sixteen bytes, most significant byte first. -/
def headerOf (data : List UInt8) : MessageHeaderImpl where
  service := bytesToWord (data.getD 0 0) (data.getD 1 0)
  method := bytesToWord (data.getD 2 0) (data.getD 3 0)
  length := bytesToLong (data.getD 4 0) (data.getD 5 0) (data.getD 6 0) (data.getD 7 0)
  client := bytesToWord (data.getD 8 0) (data.getD 9 0)
  session := bytesToWord (data.getD 10 0) (data.getD 11 0)
  protocolVersion := data.getD 12 0
  interfaceVersion := data.getD 13 0
  type := data.getD 14 0
  code := data.getD 15 0

/-- The length field of a byte string. -/
def lengthField (data : List UInt8) : ℕ := (headerOf data).length.toNat

/-- The byte strings that are messages: the header is there, and the length field counts at least the
part of the header behind it and not more than what is there. -/
def WellFormed (data : List UInt8) : Prop :=
  16 ≤ data.length ∧ 8 ≤ lengthField data ∧ 8 + lengthField data ≤ data.length

/-- A byte string is accepted exactly if it is a message, with its bytes as header and payload, and
anything else is reported as a failure. -/
def Meets (maxSize : ℕ) (data : List UInt8) (stray : ℕ → UInt8) : Prop :=
  match (deserialize maxSize (Deserializer.setData data stray)).1 with
  | .lengthError => False
  | .failure => ¬ WellFormed data
  | .message m => WellFormed data ∧ m.header = headerOf data ∧
      m.payload = some ((data.take (8 + lengthField data)).drop 16)

/-- The message is recovered from the bytes that `serialize` writes: all fields of the header, with
the length field that was written, and the bytes of the payload. -/
def RoundTrips (maxSize : ℕ) (m : MessageImpl) (stray : ℕ → UInt8) : Prop :=
  (m.serialize []).1 = some () ∧
  (deserialize maxSize (Deserializer.setData (m.serialize []).2 stray)).1 =
    .message { header := { m.header with length := m.getLength }
               payload := some (m.payload.getD []) }

/-- The capacity that is reserved for the payload. -/
def reserved (data : List UInt8) : ℕ := (lengthField data + 2 ^ 32 - 8) % 2 ^ 32

/-- The capacity for the payload can be reserved, and if the length field is below 8, the byte string
is too short for the capacity to which it wraps. -/
def LengthInRange (maxSize : ℕ) (data : List UInt8) : Prop :=
  16 ≤ data.length →
    reserved data ≤ maxSize ∧ (lengthField data < 8 → data.length < 2 ^ 32 + 8 + lengthField data)

/-! ## Reading -/

section Deserialize

variable {data : List UInt8} {stray : ℕ → UInt8}

/-- A header is read from its sixteen bytes. -/
lemma deserialize_headerOf (h : 16 ≤ data.length) :
    MessageHeaderImpl.deserialize (setData data stray) =
      (some (headerOf data), (setData data stray).advance 16) := by
  set d := setData data stray with hd
  have hr : d.remaining = data.length := rfl
  have hbyte (p : ℕ) (hp : p < 16) : d.byteAt (d.position + p) = data.getD p 0 := by
    rw [show d.position + p = p from Nat.zero_add p]
    exact byteAt_of_lt (show p < d.data.length from Nat.lt_of_lt_of_le hp h)
  have hfirst : deserialize16 d = (some (bytesToWord (data.getD 0 0) (data.getD 1 0)),
      d.advance 2) := by
    rw [deserialize16_of_le (by omega), ← hbyte 0 (by omega), ← hbyte 1 (by omega)]
    rfl
  have hword (n : ℕ) (hn : n + 2 ≤ 16) : deserialize16 (d.advance n) =
      (some (bytesToWord (data.getD n 0) (data.getD (n + 1) 0)), d.advance (n + 2)) := by
    rw [deserialize16_advance (by omega), ← hbyte n (by omega), ← hbyte (n + 1) (by omega)]
    rfl
  have hlong : deserialize32 false (d.advance 4) =
      (some (headerOf data).length, d.advance 8) := by
    rw [deserialize32_advance (by omega), headerOf, ← hbyte 4 (by omega), ← hbyte 5 (by omega),
      ← hbyte 6 (by omega), ← hbyte 7 (by omega)]
  have hoctet (n : ℕ) (hn : n < 16) : deserialize8 (d.advance n) =
      (some (data.getD n 0), d.advance (n + 1)) := by
    rw [deserialize8_advance (by omega), hbyte n hn]
  rw [MessageHeaderImpl.deserialize, Parse.bind_of_some hfirst,
    Parse.bind_of_some (hword 2 (by omega)), Parse.bind_of_some hlong,
    Parse.bind_of_some (hword 8 (by omega)), Parse.bind_of_some (hword 10 (by omega)),
    Parse.bind_of_some (hoctet 12 (by omega)), Parse.bind_of_some (hoctet 13 (by omega)),
    Parse.bind_of_some (hoctet 14 (by omega)), Parse.bind_of_some (hoctet 15 (by omega))]
  rfl

/-- The capacity that is reserved. -/
lemma toNat_length_sub (data : List UInt8) :
    ((headerOf data).length - someipHeaderSize).toNat = reserved data := by
  have hlt := (headerOf data).length.toNat_lt
  have h8 : someipHeaderSize.toNat = 8 := rfl
  rw [UInt32.toNat_sub, h8, reserved, lengthField]
  omega

/-- The bytes behind the header. -/
lemma bytesAt_setData (n : ℕ) (h : 16 + n ≤ data.length) :
    ((setData data stray).advance 16).bytesAt 16 n = (data.take (16 + n)).drop 16 := by
  have hdrop : ((setData data stray).advance 16).data.drop 16 =
      (data.take (16 + n)).drop 16 ++ data.drop (16 + n) := by
    change data.drop 16 = _
    rw [← List.drop_append_of_le_length (by rw [List.length_take]; omega), List.take_append_drop]
  have hlen : ((data.take (16 + n)).drop 16).length = n := by
    rw [List.length_drop, List.length_take]
    omega
  have hbytes := bytesAt_of_drop hdrop
  rwa [hlen] at hbytes

/-- What comes of reading a byte string whose length field asks for `n` bytes. -/
lemma deserialize_setData {n : ℕ} (maxSize : ℕ) (stray : ℕ → UInt8)
    (hn : ((headerOf data).length - someipHeaderSize).toNat = n) :
    (deserialize maxSize (setData data stray)).1 =
      if data.length < 16 then .failure
      else if maxSize < n then .lengthError
      else if data.length < 16 + n then .failure
      else .message { header := headerOf data, payload := some ((data.take (16 + n)).drop 16) } := by
  by_cases h16 : data.length < 16
  · have hnone := MessageHeaderImpl.sequential_deserialize.eq_none
      (show ¬ MessageHeaderImpl.widths.sum ≤ (setData data stray).remaining from Nat.not_le.mpr h16)
    rw [deserialize, hnone, if_pos h16]
  · have hheader := @deserialize_headerOf data stray (Nat.not_lt.mp h16)
    rw [deserialize, hheader, if_neg h16]
    simp only [setCapacity, hn]
    by_cases hmax : maxSize < n
    · rw [if_pos hmax, if_pos hmax]
    · rw [if_neg hmax, if_neg hmax]
      have hr : ((setData data stray).advance 16).remaining = data.length - 16 := rfl
      simp only [deserializeBytes, hr]
      by_cases hlen : data.length < 16 + n
      · rw [if_pos (by omega), if_pos hlen]
      · rw [if_neg (by omega), if_neg hlen]
        have hpos : ((setData data stray).advance 16).position = 16 := rfl
        simp only [List.Vector.toList_mk, hpos, bytesAt_setData _ (Nat.not_lt.mp hlen)]

/-- A length field from 8 on asks for what it counts behind the header. -/
lemma reserved_of_le (h8 : 8 ≤ lengthField data) : reserved data = lengthField data - 8 := by
  have hlt : lengthField data < 2 ^ 32 := (headerOf data).length.toNat_lt
  rw [reserved]
  omega

/-- A length field below 8 wraps. -/
lemma reserved_of_lt (h8 : lengthField data < 8) :
    reserved data + 8 = lengthField data + 2 ^ 32 := by
  rw [reserved]
  omega

/-- Reading meets the bytes exactly if the length field is in range. -/
lemma meets_iff (maxSize : ℕ) (data : List UInt8) (stray : ℕ → UInt8) :
    Meets maxSize data stray ↔ LengthInRange maxSize data := by
  have hge (h8 : 8 ≤ lengthField data) := reserved_of_le h8
  have hlt (h8 : lengthField data < 8) := reserved_of_lt h8
  rw [Meets, deserialize_setData maxSize stray (toNat_length_sub data), LengthInRange]
  generalize reserved data = n at hge hlt ⊢
  by_cases h16 : data.length < 16
  · rw [if_pos h16]
    exact iff_of_true (fun h => by have := h.1; omega) fun h => by omega
  rw [if_neg h16, forall_prop_of_true (Nat.not_lt.mp h16)]
  by_cases hmax : maxSize < n
  · rw [if_pos hmax]
    exact iff_of_false id fun h => by omega
  rw [if_neg hmax]
  by_cases h8 : lengthField data < 8
  · have hn := hlt h8
    by_cases hlen : data.length < 16 + n
    · rw [if_pos hlen]
      exact iff_of_true (fun h => by have := h.2.1; omega) ⟨by omega, fun _ => by omega⟩
    · rw [if_neg hlen]
      exact iff_of_false (fun h => by have := h.1.2.1; omega) fun h => by have := h.2 h8; omega
  · have hn := hge (Nat.not_lt.mp h8)
    refine iff_of_true ?_ ⟨by omega, fun h => absurd h h8⟩
    by_cases hlen : data.length < 16 + n
    · rw [if_pos hlen]
      exact fun h => by have := h.2.2; omega
    · rw [if_neg hlen]
      refine ⟨⟨by omega, by omega, by omega⟩, rfl, ?_⟩
      rw [hn, show 16 + (lengthField data - 8) = 8 + lengthField data by omega]

end Deserialize

/-! ## Writing and reading -/

section RoundTrip

variable (m : MessageImpl)

/-- What serializing a message writes. -/
lemma serialize_nil : m.serialize [] =
    (some (), m.header.bytes m.getLength ++ m.payload.getD []) := by
  have hheader := m.header.writes_serialize m.getLength []
  rw [serialize, Parse.bind_of_some hheader]
  cases m.payload with
  | none =>
    simp only [List.nil_append, Option.getD_none, List.append_nil]
    rfl
  | some payload => rfl

/-- The header of what was written. -/
lemma headerOf_bytes (rest : List UInt8) :
    headerOf (m.header.bytes m.getLength ++ rest) = { m.header with length := m.getLength } := by
  simp [headerOf, MessageHeaderImpl.bytes]

/-- The capacity that is reserved for a payload is its size, as far as this is a 32-bit number. -/
lemma reserved_bytes (rest : List UInt8) :
    reserved (m.header.bytes m.getLength ++ rest) = (m.payload.getD []).length % 2 ^ 32 := by
  rw [reserved, lengthField, headerOf_bytes]
  simp only [getLength, someipHeaderSize, UInt32.toNat_add, UInt32.toNat_ofNat',
    UInt32.reduceToNat]
  omega

/-- A message is recovered exactly if the size of its payload is a 32-bit number and can be
reserved. -/
lemma roundTrips_iff (maxSize : ℕ) (m : MessageImpl) (stray : ℕ → UInt8) :
    m.RoundTrips maxSize stray ↔
      (m.payload.getD []).length < 2 ^ 32 ∧ (m.payload.getD []).length ≤ maxSize := by
  have hheader : (m.header.bytes m.getLength).length = 16 := rfl
  have hres := (toNat_length_sub _).trans (m.reserved_bytes (m.payload.getD []))
  rw [RoundTrips, serialize_nil, deserialize_setData maxSize stray hres, headerOf_bytes,
    List.length_append, hheader, if_neg (by omega)]
  simp only [true_and]
  by_cases h32 : (m.payload.getD []).length < 2 ^ 32
  · rw [Nat.mod_eq_of_lt h32, if_neg (show ¬ 16 + _ < 16 + _ from Nat.lt_irrefl _)]
    by_cases hmax : maxSize < (m.payload.getD []).length
    · rw [if_pos hmax]
      exact iff_of_false (fun h => by cases h) fun h => by omega
    · rw [if_neg hmax, ← hheader, ← List.length_append, List.take_length, List.drop_left]
      exact iff_of_true rfl ⟨h32, by omega⟩
  · refine iff_of_false (fun h => ?_) fun h => h32 h.1
    split_ifs at h
    have hpayload := congrArg (fun m => (m.payload.getD []).length) (Deserialized.message.inj h)
    simp only [Option.getD_some, List.length_drop, List.length_take, List.length_append,
      hheader] at hpayload
    have := Nat.mod_lt (m.payload.getD []).length (show 0 < 2 ^ 32 by omega)
    omega

end RoundTrip

/-- On every platform, exactly the messages among all byte strings are accepted, with their bytes as
header and payload, and everything else is reported as a failure, if and only if the length field of
a byte string is in range; and a message is recovered from what `serialize` has written if and only
if the size of its payload is a 32-bit number that can be reserved. -/
theorem codec_iff (maxSize : ℕ) (stray : ℕ → UInt8) :
    (∀ data : List UInt8, Meets maxSize data stray ↔ LengthInRange maxSize data) ∧
    ∀ m : MessageImpl, m.RoundTrips maxSize stray ↔
      (m.payload.getD []).length < 2 ^ 32 ∧ (m.payload.getD []).length ≤ maxSize :=
  ⟨fun data => meets_iff maxSize data stray, fun m => roundTrips_iff maxSize m stray⟩

/-- The length field of a string of zeros is 0. -/
lemma lengthField_replicate (n : ℕ) : lengthField (List.replicate n 0) = 0 := by
  have hbyte (i : ℕ) : (List.replicate n (0 : UInt8)).getD i 0 = 0 := by
    rw [List.getD_eq_getElem?_getD, List.getElem?_replicate]
    split <;> rfl
  simp only [lengthField, headerOf, hbyte]
  rfl

/-- A string of at least sixteen zeros is not met if the capacity to which its length field wraps
cannot be reserved, or if it is long enough for it. -/
lemma not_meets_replicate {maxSize n : ℕ} (stray : ℕ → UInt8) (h16 : 16 ≤ n)
    (h : maxSize + 8 < 2 ^ 32 ∨ 2 ^ 32 + 8 ≤ n) :
    ¬ Meets maxSize (List.replicate n 0) stray := by
  intro hmeets
  have hrange := (meets_iff _ _ _).mp hmeets
  have hfield := lengthField_replicate n
  have hreserved := reserved_of_lt (show lengthField (List.replicate n 0) < 8 by omega)
  rw [LengthInRange, hfield, List.length_replicate] at hrange
  have := hrange h16
  omega

/-- A header without a payload whose length field is 0. Where a vector has at most `2 ^ 31 - 1` bytes
it is not reported as a failure: reserving `2 ^ 32 - 8` bytes throws. Where it can have more, a
string of `2 ^ 32 + 8` zeros is accepted. -/
theorem not_meets_lengthZero :
    ¬ Meets (2 ^ 31 - 1) (List.replicate 16 0) (fun _ => 0) ∧
      ¬ Meets (2 ^ 63 - 1) (List.replicate (2 ^ 32 + 8) 0) (fun _ => 0) :=
  ⟨not_meets_replicate _ (Nat.le_refl 16) (.inl (by omega)),
    not_meets_replicate _ (by omega) (.inr (Nat.le_refl _))⟩

end MessageImpl

end Vsomeip
