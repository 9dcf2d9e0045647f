import Vsomeip.ServiceDiscovery.OptionBounds

set_option relaxedAutoImplicit false
set_option autoImplicit false

/-!
# Where an option ends

An option announces its own length. The decoders of the IP options compare it with the length of their
kind, but read their fields without looking if they are there; those of the load balancing and of the
protection option read their fields with care, but do not look at the length. So an IP option is taken
although it is cut off, and one of the others although it says that it ends somewhere else. None of
them looks at the type, which `message_impl::deserialize_option` has read before.

## Main definitions

* `Vsomeip.Sd.OptionKind` — the kinds of options with a decoder of their own.
* `Vsomeip.Sd.OptionKind.Framed` — an option that is accepted ends where it says.
* `Vsomeip.Sd.OptionKind.Accepts`, `Vsomeip.Sd.OptionKind.WellFormed` — the bytes that a decoder
  accepts, and those that it should.

## Main results

* `Vsomeip.Sd.OptionKind.deserialize_of_accepts` — what a decoder makes of bytes that it accepts.
* `Vsomeip.Sd.OptionKind.framed_iff` — an option is framed exactly if what is accepted is well formed.
-/

namespace Vsomeip.Sd

open Deserializer

/-! ## The kinds -/

/-- The kinds of options with a decoder of their own. Endpoint and multicast options share one. -/
inductive OptionKind
  | ipv4
  | ipv6
  | loadBalancing
  | protection
deriving DecidableEq, Repr

/-- The length field that an option at the cursor announces. -/
def wireLength (d : Deserializer) : UInt16 :=
  bytesToWord (d.byteAt d.position) (d.byteAt (d.position + 1))

/-- The type of an option at the cursor. -/
def wireType (d : Deserializer) : OptionType := OptionType.ofByte (d.byteAt (d.position + 2))

namespace OptionKind

/-- The types of a kind. -/
def types : OptionKind → List OptionType
  | ipv4 => [.ip4Endpoint, .ip4Multicast]
  | ipv6 => [.ip6Endpoint, .ip6Multicast]
  | loadBalancing => [.loadBalancing]
  | protection => [.protection]

/-- The length that the constructor of a kind gives to an option. -/
def length : OptionKind → UInt16
  | ipv4 => ipv4OptionLength
  | ipv6 => ipv6OptionLength
  | loadBalancing => 1 + 2 + 2
  | protection => 1 + 4 + 4

/-- The decoder of a kind. -/
def deserialize : OptionKind → Parse Deserializer SdOption
  | ipv4 => do let o ← IpOptionImpl.deserialize 4 ipv4OptionLength; pure (.ipv4 o)
  | ipv6 => do let o ← IpOptionImpl.deserialize 16 ipv6OptionLength; pure (.ipv6 o)
  | loadBalancing => do let o ← LoadBalancingOptionImpl.deserialize; pure (.loadBalancing o)
  | protection => do let o ← ProtectionOptionImpl.deserialize; pure (.protection o)

/-- An option that is accepted has the length and a type of its kind, all of its bytes were there, and
the cursor stands behind them. -/
def Framed (k : OptionKind) (d : Deserializer) : Prop :=
  ∀ o d', k.deserialize d = (some o, d') →
    o.base.length = k.length ∧ o.base.type ∈ k.types ∧ o.base.length.toNat + 3 ≤ d.remaining ∧
      d' = d.advance (o.base.length.toNat + 3)

/-- The bytes that a decoder accepts: an IP option needs its length only, the others need their fields
and any known type. -/
def Accepts (k : OptionKind) (d : Deserializer) : Prop :=
  match k with
  | ipv4 | ipv6 => 4 ≤ d.remaining ∧ wireLength d = k.length
  | loadBalancing | protection => k.length.toNat + 3 ≤ d.remaining ∧ wireType d ≠ .unknown

/-- The option at the cursor has the length and a type of its kind, and all of its bytes are there. -/
structure WellFormed (k : OptionKind) (d : Deserializer) : Prop where
  length : wireLength d = k.length
  type : wireType d ∈ k.types
  room : k.length.toNat + 3 ≤ d.remaining

end OptionKind

/-! ## The decoders -/

section Decoders

variable {d : Deserializer}

/-- The common part of an option of unknown type. -/
lemma OptionImpl.deserialize_of_unknown (hr : 4 ≤ d.remaining) (ht : wireType d = .unknown) :
    OptionImpl.deserialize d =
      (some { length := wireLength d, type := wireType d }, (d.advance 4).setRemaining 0) := by
  rw [wireType] at ht
  rw [OptionImpl.deserialize, Parse.bind_of_some (deserialize16_of_le (by omega)),
    Parse.bind_of_some (deserialize8_advance (by omega)),
    Parse.bind_of_some (deserialize8_advance (by omega)), wireType, ht]
  rfl

/-- The common part of an option: the cursor stands behind it, unless the type is unknown. -/
lemma OptionImpl.deserialize_eq_some (hr : 4 ≤ d.remaining) : ∃ d₁,
    OptionImpl.deserialize d = (some { length := wireLength d, type := wireType d }, d₁) ∧
      (wireType d = .unknown ∧ d₁ = (d.advance 4).setRemaining 0 ∨
        wireType d ≠ .unknown ∧ d₁ = d.advance 4) := by
  by_cases ht : wireType d = .unknown
  · exact ⟨_, OptionImpl.deserialize_of_unknown hr ht, .inl ⟨ht, rfl⟩⟩
  · exact ⟨_, OptionImpl.deserialize_eq hr ht, .inr ⟨ht, rfl⟩⟩

/-- A read that is only tried. -/
lemma snd_of_sequential {α : Type} {w : ℕ} {m : Parse Deserializer α} (hm : Sequential [w] m)
    (d : Deserializer) : (m d).2 = d.advance (attempted [w] d.remaining) := (hm d).1

/-- The first field is tried, then the others. -/
lemma attempted_cons (w : ℕ) (ws : List ℕ) (r : ℕ) :
    attempted (w :: ws) r = attempted [w] r + attempted ws (r - attempted [w] r) := by
  simp only [attempted]
  split_ifs
  · rfl
  · rw [Nat.zero_add, Nat.sub_zero]

/-- When all fields fit, all are read. -/
lemma attempted_of_sum_le : ∀ {ws : List ℕ} {r : ℕ}, ws.sum ≤ r → attempted ws r = ws.sum
  | [], _, _ => rfl
  | w :: ws, r, h => by
    rw [List.sum_cons] at h
    rw [attempted, if_pos (by omega), attempted_of_sum_le (by omega), List.sum_cons]

/-- Fields that are tried one after the other. -/
lemma advance_attempted (w : ℕ) (ws : List ℕ) (d : Deserializer) :
    (d.advance (attempted [w] d.remaining)).advance
        (attempted ws (d.advance (attempted [w] d.remaining)).remaining) =
      d.advance (attempted (w :: ws) d.remaining) := by
  rw [advance_advance, remaining_advance, ← attempted_cons]

section Ip

variable {n : ℕ} {optionLength : UInt16} {base : OptionImpl} {d₁ : Deserializer}

/-- An IP option of the right length is accepted, and its fields are tried. -/
lemma IpOptionImpl.deserialize_of_base (hbase : OptionImpl.deserialize d = (some base, d₁))
    (hl : base.length = optionLength) :
    ∃ o : IpOptionImpl n, o.toOptionImpl = base ∧ IpOptionImpl.deserialize n optionLength d =
      (some o, d₁.advance (attempted [n, 1, 1, 2] d₁.remaining)) := by
  have hstate : (deserialize16 (deserialize8 (deserialize8 (deserializeBytes n d₁).2).2).2).2 =
      d₁.advance (attempted [n, 1, 1, 2] d₁.remaining) := by
    rw [snd_of_sequential (sequential_deserializeBytes n), snd_of_sequential sequential_deserialize8,
      snd_of_sequential sequential_deserialize8, snd_of_sequential sequential_deserialize16,
      advance_attempted 1 [2], advance_attempted 1 [1, 2], advance_attempted n [1, 1, 2]]
  rw [IpOptionImpl.deserialize, Parse.attempt_bind, hbase, Parse.attempt_bind, Parse.attempt_bind,
    Parse.attempt_bind, Parse.attempt_bind, hstate]
  dsimp only
  rw [if_pos hl]
  exact ⟨_, rfl, rfl⟩

/-- An IP option of another length is refused. -/
lemma IpOptionImpl.deserialize_of_base_ne (hbase : OptionImpl.deserialize d = (some base, d₁))
    (hl : base.length ≠ optionLength) : (IpOptionImpl.deserialize n optionLength d).1 = none := by
  rw [IpOptionImpl.deserialize, Parse.attempt_bind, hbase, Parse.attempt_bind, Parse.attempt_bind,
    Parse.attempt_bind, Parse.attempt_bind]
  dsimp only
  rw [if_neg hl]
  rfl

end Ip

/-- An option that goes on with fields behind the common part is refused if these are not there, or
if its type is unknown. -/
lemma fields_eq_none {α : Type} {ws : List ℕ} {f : OptionImpl → Parse Deserializer α}
    (hf : ∀ base, Sequential ws (f base)) (hpos : 0 < ws.sum)
    (h : ¬ (4 + ws.sum ≤ d.remaining ∧ wireType d ≠ .unknown)) :
    ((OptionImpl.deserialize >>= f) d).1 = none := by
  by_cases hr : 4 ≤ d.remaining
  · obtain ⟨d₁, hbase, hd₁⟩ := OptionImpl.deserialize_eq_some hr
    rw [Parse.bind_of_some hbase]
    have hroom : ¬ ws.sum ≤ d₁.remaining := by
      obtain ⟨-, rfl⟩ | ⟨ht, rfl⟩ := hd₁
      · rw [remaining_setRemaining]
        omega
      · rw [remaining_advance]
        have hshort : ¬ 4 + ws.sum ≤ d.remaining := fun hle => h ⟨hle, ht⟩
        omega
    rw [(hf _).eq_none hroom]
  · exact Parse.bind_fst_eq_none (OptionImpl.deserialize_of_lt (by omega))

end Decoders

namespace OptionKind

variable {k : OptionKind} {d : Deserializer}

/-- The widths of the fields behind the common part. -/
def fields : OptionKind → List ℕ
  | ipv4 => [4, 1, 1, 2]
  | ipv6 => [16, 1, 1, 2]
  | loadBalancing => [2, 2]
  | protection => [4, 4]

/-- The length of an option, by its fields. -/
lemma length_add_three (k : OptionKind) : k.length.toNat + 3 = 4 + k.fields.sum := by
  cases k <;> rfl

/-- A type of a kind is not unknown. -/
lemma ne_unknown_of_mem {t : OptionType} (h : t ∈ k.types) : t ≠ .unknown := by
  rintro rfl
  cases k <;> revert h <;> decide

/-- An IP option that is refused. -/
lemma ip_eq_none {n : ℕ} {optionLength : UInt16}
    (h : ¬ (4 ≤ d.remaining ∧ wireLength d = optionLength)) :
    (IpOptionImpl.deserialize n optionLength d).1 = none := by
  by_cases hr : 4 ≤ d.remaining
  · obtain ⟨d₁, hbase, -⟩ := OptionImpl.deserialize_eq_some hr
    exact IpOptionImpl.deserialize_of_base_ne hbase fun hl => h ⟨hr, hl⟩
  · rw [IpOptionImpl.deserialize, Parse.attempt_bind, OptionImpl.deserialize_of_lt (by omega)]
    rfl

/-- What a decoder does not accept, it refuses. -/
lemma deserialize_of_not_accepts (h : ¬ k.Accepts d) : (k.deserialize d).1 = none := by
  cases k with
  | ipv4 | ipv6 => exact Parse.bind_fst_eq_none (ip_eq_none h)
  | loadBalancing =>
    refine Parse.bind_fst_eq_none (@fields_eq_none d _ [2, 2] _ (fun _ => ?_) (by decide) h)
    exact sequential_deserialize16.bind fun _ => sequential_deserialize16.bind fun _ =>
      Sequential.pure _
  | protection =>
    refine Parse.bind_fst_eq_none (@fields_eq_none d _ [4, 4] _ (fun _ => ?_) (by decide) h)
    exact sequential_deserialize32.bind fun _ => sequential_deserialize32.bind fun _ =>
      Sequential.pure _

/-- An IP option that is accepted. -/
lemma ip_eq_some {n : ℕ} {optionLength : UInt16} (hr : 4 ≤ d.remaining)
    (hl : wireLength d = optionLength) : ∃ (o : IpOptionImpl n) (d' : Deserializer),
      IpOptionImpl.deserialize n optionLength d = (some o, d') ∧
      o.toOptionImpl = { length := wireLength d, type := wireType d } ∧
      (wireType d ≠ .unknown →
        d' = d.advance (4 + attempted [n, 1, 1, 2] (d.remaining - 4))) := by
  obtain ⟨d₁, hbase, hd₁⟩ := OptionImpl.deserialize_eq_some hr
  obtain ⟨o, ho, hrun⟩ := @IpOptionImpl.deserialize_of_base d n _ _ d₁ hbase hl
  refine ⟨o, _, hrun, ho, fun ht => ?_⟩
  obtain ⟨hunknown, -⟩ | ⟨-, rfl⟩ := hd₁
  · exact absurd hunknown ht
  · rw [advance_advance, remaining_advance]

/-- **What a decoder makes of bytes that it accepts.** The option has the length and the type that
stand there, and if the type is known the cursor has moved over the fields that are there. -/
theorem deserialize_of_accepts (h : k.Accepts d) : ∃ o d', k.deserialize d = (some o, d') ∧
    o.base = { length := wireLength d, type := wireType d } ∧
    (wireType d ≠ .unknown → d' = d.advance (4 + attempted k.fields (d.remaining - 4))) := by
  cases k with
  | ipv4 | ipv6 =>
    obtain ⟨o, d', hrun, hbase, hend⟩ := ip_eq_some h.1 h.2
    exact ⟨_, d', Parse.bind_of_some hrun, hbase, hend⟩
  | loadBalancing =>
    have hroom : 4 + [2, 2].sum ≤ d.remaining := h.1
    have hend : attempted [2, 2] (d.remaining - 4) = [2, 2].sum := attempted_of_sum_le (by omega)
    change 4 + 4 ≤ d.remaining at hroom
    obtain ⟨o, hbase, hrun⟩ : ∃ o : LoadBalancingOptionImpl,
        o.toOptionImpl = { length := wireLength d, type := wireType d } ∧
          LoadBalancingOptionImpl.deserialize d = (some o, d.advance (4 + [2, 2].sum)) := by
      rw [LoadBalancingOptionImpl.deserialize,
        Parse.bind_of_some (OptionImpl.deserialize_eq (by omega) h.2),
        Parse.bind_of_some (deserialize16_advance (by omega)),
        Parse.bind_of_some (deserialize16_advance (by omega))]
      exact ⟨_, rfl, rfl⟩
    exact ⟨_, _, Parse.bind_of_some hrun, hbase, fun _ => by rw [fields, hend]⟩
  | protection =>
    have hroom : 4 + [4, 4].sum ≤ d.remaining := h.1
    have hend : attempted [4, 4] (d.remaining - 4) = [4, 4].sum := attempted_of_sum_le (by omega)
    change 4 + 8 ≤ d.remaining at hroom
    obtain ⟨o, hbase, hrun⟩ : ∃ o : ProtectionOptionImpl,
        o.toOptionImpl = { length := wireLength d, type := wireType d } ∧
          ProtectionOptionImpl.deserialize d = (some o, d.advance (4 + [4, 4].sum)) := by
      rw [ProtectionOptionImpl.deserialize,
        Parse.bind_of_some (OptionImpl.deserialize_eq (by omega) h.2),
        Parse.bind_of_some (deserialize32_advance (by omega)),
        Parse.bind_of_some (deserialize32_advance (by omega))]
      exact ⟨_, rfl, rfl⟩
    exact ⟨_, _, Parse.bind_of_some hrun, hbase, fun _ => by rw [fields, hend]⟩

/-- **An option is framed** exactly if it is well formed or not accepted: for every kind and every
cursor into any bytes. -/
theorem framed_iff (k : OptionKind) (d : Deserializer) :
    k.Framed d ↔ (k.Accepts d → k.WellFormed d) := by
  constructor
  · intro hframed haccepts
    obtain ⟨o, d', hrun, hbase, -⟩ := deserialize_of_accepts haccepts
    obtain ⟨hlength, htype, hroom, -⟩ := hframed o d' hrun
    rw [hbase] at hlength htype hroom
    exact ⟨hlength, htype, hlength ▸ hroom⟩
  · intro hwell o d' hrun
    have haccepts : k.Accepts d := by
      by_contra hnot
      have hnone := deserialize_of_not_accepts hnot
      rw [hrun] at hnone
      cases hnone
    obtain ⟨hlength, htype, hroom⟩ := hwell haccepts
    obtain ⟨o', d'', hrun', hbase, hend⟩ := deserialize_of_accepts haccepts
    obtain ⟨ho, rfl⟩ := Prod.mk.inj (hrun.symm.trans hrun')
    obtain rfl := Option.some.inj ho
    rw [hbase, hlength]
    refine ⟨rfl, htype, hroom, ?_⟩
    rw [hend (ne_unknown_of_mem htype), length_add_three, attempted_of_sum_le]
    rw [length_add_three] at hroom
    omega

/-- **A load balancing option that is too long and an IPv4 option that is cut off** are accepted: the
first one announces nine bytes and is left after five, the second one has one byte of its address. -/
theorem not_framed_examples :
    ¬ loadBalancing.Framed (setData [0x00, 0x09, 0x02, 0x00, 0x00, 0x01, 0x00, 0x02, 0x00, 0x00,
        0x00, 0x00] fun _ => 0) ∧
      ¬ ipv4.Framed (setData [0x00, 0x09, 0x04, 0x00, 0x0A] fun _ => 0) := by
  refine ⟨fun hframed => ?_, fun hframed => ?_⟩
  · obtain ⟨hlength, -⟩ := hframed _ _ rfl
    revert hlength
    decide
  · obtain ⟨-, -, hroom, -⟩ := hframed _ _ rfl
    revert hroom
    decide

end OptionKind

end Vsomeip.Sd
