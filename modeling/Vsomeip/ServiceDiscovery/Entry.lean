import Vsomeip.Message.Deserializer
import Vsomeip.Message.Serializer

set_option relaxedAutoImplicit false
set_option autoImplicit false

/-!
# Service discovery entries

The entries of an SD message (`service_discovery/src/entry_impl.cpp`, `serviceentry_impl.cpp` and
`eventgroupentry_impl.cpp`). An entry refers to options of its message by two runs of consecutive
indices; on the wire a run is its first index and a four-bit count.

## Main definitions

* `Vsomeip.Sd.EntryImpl`, `Vsomeip.Sd.ServiceentryImpl`, `Vsomeip.Sd.EventgroupentryImpl`,
  `Vsomeip.Sd.Entry` — the entries.
* `Vsomeip.Sd.EntryImpl.assignOption` — `entry_impl::assign_option`.
* `Vsomeip.Sd.Entry.serialize`, `Vsomeip.Sd.ServiceentryImpl.deserialize`,
  `Vsomeip.Sd.EventgroupentryImpl.deserialize` — the codec.
-/

namespace Vsomeip.Sd

open Deserializer Serializer

/-- `entry_type_e`; the stop-offer, stop-publish, stop-subscribe and stop-acknowledge types of the
source are further names of the values here. -/
inductive EntryType
  | findService
  | offerService
  | requestService
  | findEventGroup
  | publishEventgroup
  | subscribeEventgroup
  | subscribeEventgroupAck
  | unknown
deriving DecidableEq, Repr

namespace EntryType

/-- The byte of a type on the wire. -/
def toByte : EntryType → UInt8
  | findService => 0x00
  | offerService => 0x01
  | requestService => 0x02
  | findEventGroup => 0x04
  | publishEventgroup => 0x05
  | subscribeEventgroup => 0x06
  | subscribeEventgroupAck => 0x07
  | unknown => 0xFF

/-- The type of a byte; bytes without a named type count as unknown. -/
def ofByte (b : UInt8) : EntryType :=
  if b = 0x00 then findService
  else if b = 0x01 then offerService
  else if b = 0x02 then requestService
  else if b = 0x04 then findEventGroup
  else if b = 0x05 then publishEventgroup
  else if b = 0x06 then subscribeEventgroup
  else if b = 0x07 then subscribeEventgroupAck
  else unknown

/-- A type of entry is read back from its byte. -/
@[simp] lemma ofByte_toByte (t : EntryType) : ofByte t.toByte = t := by cases t <;> rfl

/-- The types `deserialize_entry` reads as service entries. -/
def isService (t : EntryType) : Prop := t = findService ∨ t = offerService ∨ t = requestService

/-- The types `deserialize_entry` reads as eventgroup entries. -/
def isEventgroup (t : EntryType) : Prop :=
  t = findEventGroup ∨ t = publishEventgroup ∨ t = subscribeEventgroup ∨ t = subscribeEventgroupAck

instance (t : EntryType) : Decidable t.isService := by unfold isService; infer_instance

instance (t : EntryType) : Decidable t.isEventgroup := by unfold isEventgroup; infer_instance

end EntryType

/-- The members of `entry_impl`. The arrays `options_` and `num_options_` of the two option runs
are written out. -/
structure EntryImpl where
  type : EntryType
  service : UInt16
  instance_ : UInt16
  majorVersion : UInt8
  ttl : UInt32
  options1 : List UInt8
  options2 : List UInt8
  numOptions1 : UInt8
  numOptions2 : UInt8
  index1 : UInt8
  index2 : UInt8
deriving DecidableEq, Repr

/-- `serviceentry_impl`. -/
structure ServiceentryImpl extends EntryImpl where
  minorVersion : UInt32
deriving DecidableEq, Repr

/-- `eventgroupentry_impl`. The two targets, which are not on the wire, are left out. -/
structure EventgroupentryImpl extends EntryImpl where
  eventgroup : UInt16
  reserved : UInt16
  counter : UInt8
deriving DecidableEq, Repr

/-- An entry of a message. -/
inductive Entry
  | service (e : ServiceentryImpl)
  | eventgroup (e : EventgroupentryImpl)
deriving DecidableEq, Repr

/-- The members common to all entries. -/
def Entry.base : Entry → EntryImpl
  | .service e => e.toEntryImpl
  | .eventgroup e => e.toEntryImpl

namespace EntryImpl

/-- `entry_impl::entry_impl()`. -/
def init : EntryImpl :=
  { type := .unknown, service := 0, instance_ := 0, majorVersion := 0, ttl := 0, options1 := [],
    options2 := [], numOptions1 := 0, numOptions2 := 0, index1 := 0, index2 := 0 }

/-- The test of `assign_option` whether an index can be joined to a run: the run is empty, or the
index stands right before its first or right behind its last index. -/
def canJoin (run : List UInt8) (optionIndex : UInt8) : Bool :=
  match run with
  | [] => true
  | first :: rest =>
    first.toNat == optionIndex.toNat + 1 ||
      ((first :: rest).getLast (List.cons_ne_nil _ _)).toNat + 1 == optionIndex.toNat

/-- `entry_impl::assign_option`, with the index `get_option_index` finds for the option. An index
that fits neither run is dropped. -/
def assignOption (e : EntryImpl) (optionIndex : UInt8) : EntryImpl :=
  if canJoin e.options1 optionIndex then
    { e with
      options1 := (e.options1 ++ [optionIndex]).mergeSort (fun a b => decide (a ≤ b))
      numOptions1 := e.numOptions1 + 1 }
  else if canJoin e.options2 optionIndex then
    { e with
      options2 := (e.options2 ++ [optionIndex]).mergeSort (fun a b => decide (a ≤ b))
      numOptions2 := e.numOptions2 + 1 }
  else e

/-- The byte with the sizes of both option runs, four bits each. -/
def numberOfOptions (e : EntryImpl) : UInt8 :=
  (UInt8.ofNat e.options1.length <<< 4) ||| (UInt8.ofNat e.options2.length &&& 0x0F)

/-- `entry_impl::serialize`. -/
def serialize (e : EntryImpl) : Serializer := do
  serialize8 e.type.toByte
  serialize8 (e.options1.headD 0)
  serialize8 (e.options2.headD 0)
  serialize8 e.numberOfOptions
  serialize16 e.service
  serialize16 e.instance_

/-- The run of `num` indices from `index` on, as the loops of `entry_impl::deserialize` fill it. -/
def readRun (index num : UInt8) : List UInt8 :=
  (List.range' index.toNat num.toNat).map UInt8.ofNat

/-- `entry_impl::deserialize`. The two fields of the subclasses that stand between are still at
their initial values. -/
def deserialize : Parse Deserializer EntryImpl := do
  let itsType ← deserialize8
  let index1 ← deserialize8
  let index2 ← deserialize8
  let itsNumbers ← deserialize8
  let numOptions1 := itsNumbers >>> 4
  let numOptions2 := itsNumbers &&& 0xF
  let service ← deserialize16
  let instance_ ← deserialize16
  pure
    { type := EntryType.ofByte itsType, service, instance_, majorVersion := 0, ttl := 0,
      options1 := readRun index1 numOptions1, options2 := readRun index2 numOptions2,
      numOptions1, numOptions2, index1, index2 }

end EntryImpl

namespace ServiceentryImpl

/-- `serviceentry_impl::serialize`. -/
def serialize (e : ServiceentryImpl) : Serializer := do
  e.toEntryImpl.serialize
  serialize8 e.majorVersion
  serialize32 e.ttl true
  serialize32 e.minorVersion false

/-- `serviceentry_impl::deserialize`. -/
def deserialize : Parse Deserializer ServiceentryImpl := do
  let base ← EntryImpl.deserialize
  let majorVersion ← deserialize8
  let ttl ← deserialize32 true
  let minorVersion ← deserialize32 false
  pure { base with majorVersion, ttl, minorVersion }

end ServiceentryImpl

namespace EventgroupentryImpl

/-- The sixteen bits with the reserved field and the counter. -/
def counterAndReserved (e : EventgroupentryImpl) : UInt16 :=
  if e.reserved = 0 then e.counter.toUInt16
  else (e.reserved <<< 4) ||| e.counter.toUInt16

/-- `eventgroupentry_impl::serialize`: a counter that needs more than four bits is an error. -/
def serialize (e : EventgroupentryImpl) : Serializer := do
  e.toEntryImpl.serialize
  serialize8 e.majorVersion
  serialize32 e.ttl true
  if e.counter ≥ 16 then Parse.fail
  else
    serialize8 (e.counterAndReserved >>> 8).toUInt8
    serialize8 e.counterAndReserved.toUInt8
    serialize16 e.eventgroup

/-- `eventgroupentry_impl::deserialize`. The counter is the low nibble of a byte, so the test of
the source that it is below 16 never fails. -/
def deserialize : Parse Deserializer EventgroupentryImpl := do
  let base ← EntryImpl.deserialize
  let majorVersion ← deserialize8
  let ttl ← deserialize32 true
  let reserved1 ← deserialize8
  let reserved2 ← deserialize8
  let reserved := ((reserved1.toUInt16 <<< 8) ||| reserved2.toUInt16) >>> 4
  let counter := reserved2 &&& ~~~0xF0
  if counter ≥ 16 then Parse.fail
  else
    let eventgroup ← deserialize16
    pure { base with majorVersion, ttl, eventgroup, reserved, counter }

/-- `eventgroupentry_impl::operator==`. -/
def equal (e f : EventgroupentryImpl) : Bool :=
  e.ttl == f.ttl && e.service == f.service && e.instance_ == f.instance_ &&
    e.eventgroup == f.eventgroup && e.index1 == f.index1 && e.index2 == f.index2 &&
    e.numOptions1 == f.numOptions1 && e.numOptions2 == f.numOptions2 &&
    e.majorVersion == f.majorVersion && e.counter == f.counter

end EventgroupentryImpl

/-- The `serialize` of an entry's class. -/
def Entry.serialize : Entry → Serializer
  | .service e => e.serialize
  | .eventgroup e => e.serialize

/-! ## The fields of an entry -/

/-- The widths of the fields common to all entries. -/
def EntryImpl.widths : List ℕ := [1, 1, 1, 1, 2, 2]

/-- The widths of the fields of a service entry. -/
def ServiceentryImpl.widths : List ℕ := EntryImpl.widths ++ [1, 3, 4]

/-- The widths of the fields of an eventgroup entry. -/
def EventgroupentryImpl.widths : List ℕ := EntryImpl.widths ++ [1, 3, 1, 1, 2]

/-- The fields of the common part of an entry. -/
lemma EntryImpl.sequential_deserialize : Sequential EntryImpl.widths EntryImpl.deserialize :=
  sequential_deserialize8.bind fun _ => sequential_deserialize8.bind fun _ =>
    sequential_deserialize8.bind fun _ => sequential_deserialize8.bind fun _ =>
    sequential_deserialize16.bind fun _ => sequential_deserialize16.bind fun _ => Sequential.pure _

/-- A service entry is read field by field. -/
lemma ServiceentryImpl.sequential_deserialize :
    Sequential ServiceentryImpl.widths ServiceentryImpl.deserialize :=
  EntryImpl.sequential_deserialize.bind fun _ => sequential_deserialize8.bind fun _ =>
    sequential_deserialize24.bind fun _ => sequential_deserialize32.bind fun _ => Sequential.pure _

/-- The low nibble of a byte is below 16. -/
lemma low_nibble_lt (b : UInt8) : ¬ b &&& ~~~0xF0 ≥ 16 := by
  have h : b.toNat &&& 15 ≤ 15 := Nat.and_le_right
  rw [ge_iff_le, UInt8.le_iff_toNat_le, UInt8.toNat_and]
  change ¬ 16 ≤ b.toNat &&& 15
  omega

/-- An eventgroup entry is read field by field. -/
lemma EventgroupentryImpl.sequential_deserialize :
    Sequential EventgroupentryImpl.widths EventgroupentryImpl.deserialize := by
  refine EntryImpl.sequential_deserialize.bind fun _ => sequential_deserialize8.bind fun _ =>
    sequential_deserialize24.bind fun _ => sequential_deserialize8.bind fun _ =>
    sequential_deserialize8.bind fun b => ?_
  simp only [if_neg (low_nibble_lt b)]
  exact sequential_deserialize16.bind fun _ => Sequential.pure _

/-! ## References to options -/

/-- An entry refers to an option by its position in the message. -/
lemma idxOf?_of_mem {Ptr : Type} [BEq Ptr] [LawfulBEq Ptr] {options : List Ptr} {o : Ptr}
    (h : o ∈ options) : options.idxOf? o = some (options.idxOf o) := by
  refine List.idxOf?_eq_some_iff.mpr ⟨List.idxOf_lt_length_of_mem h, List.getElem_idxOf _, ?_⟩
  exact fun j hj => beq_eq_false_iff_ne.mp (List.not_of_lt_findIdx hj)

end Vsomeip.Sd
