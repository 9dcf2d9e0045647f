import Mathlib.Logic.Relation
import Vsomeip.ServiceDiscovery.Message

set_option relaxedAutoImplicit false
set_option autoImplicit false

/-!
# Reads of the option parser

Where the loop over the options of an SD message starts an option and what it reads there. The
only read that is not checked against what remains is the look at the type byte: `look_ahead`
compares its index with the size of the whole buffer.

The starts of the options are described on the bytes alone, without running the parser:
`optionStride` reads the distance from one option to the next off the first four bytes of the
option and the number of remaining bytes.

## Main definitions

* `Vsomeip.Sd.optionStride` — the distance from an option to the next one.
* `Vsomeip.Sd.OptionsInside` — every option that is started has its type byte.

## Main results

* `Vsomeip.Sd.strides_deserializeOption` — the parser follows `optionStride`.
* `Vsomeip.Sd.inBounds_optionsLoop_iff` — the loop over the options stays inside the data exactly
  under `OptionsInside`.
-/

namespace Vsomeip.Sd

open Deserializer

/-! ## Options -/

/-- The distance from an option at `p` to the next one, if the option can be read with `r` bytes
remaining and another one may follow. A configuration option reads all that remains, and an option
of unknown type drops it. -/
def optionStride (data : List UInt8) (p r : ℕ) : Option ℕ :=
  if r < 4 then none
  else match OptionType.ofByte (data.getD (p + 2) 0) with
    | .ip4Endpoint | .ip4Multicast =>
      if bytesToWord (data.getD p 0) (data.getD (p + 1) 0) = ipv4OptionLength then
        some (4 + attempted [4, 1, 1, 2] (r - 4))
      else none
    | .ip6Endpoint | .ip6Multicast =>
      if bytesToWord (data.getD p 0) (data.getD (p + 1) 0) = ipv6OptionLength then
        some (4 + attempted [16, 1, 1, 2] (r - 4))
      else none
    | .loadBalancing => if 8 ≤ r then some 8 else none
    | .protection => if 12 ≤ r then some 12 else none
    | .configuration | .unknown => none

/-- An option at `p` is followed by one at `q`, when the options end at `lim`. -/
def OptionStep (data : List UInt8) (lim p q : ℕ) : Prop :=
  ∃ s, optionStride data p (lim - p) = some s ∧ q = p + s

/-- Every option that starts in front of `lim`, the first one at `p`, has its type byte in the
data. -/
def OptionsInside (data : List UInt8) (lim p : ℕ) : Prop :=
  ∀ q, Relation.ReflTransGen (OptionStep data lim) p q → q < lim → q + 2 < data.length

section Head

variable {d : Deserializer}

/-- A byte that may not be read. -/
lemma deserialize8_advance_of_le {n : ℕ} (hr : d.remaining ≤ n) :
    deserialize8 (d.advance n) = (none, d.advance n) := by
  rw [deserialize8, if_pos (by simp only [remaining_advance]; omega)]

/-- The common part of an option whose type is known, when its four bytes may be read. -/
lemma OptionImpl.deserialize_eq (hr : 4 ≤ d.remaining)
    (ht : OptionType.ofByte (d.byteAt (d.position + 2)) ≠ .unknown) :
    OptionImpl.deserialize d =
      (some { length := bytesToWord (d.byteAt d.position) (d.byteAt (d.position + 1)),
              type := OptionType.ofByte (d.byteAt (d.position + 2)) }, d.advance 4) := by
  rw [OptionImpl.deserialize, Parse.bind_of_some (deserialize16_of_le (by omega)),
    Parse.bind_of_some (deserialize8_advance (by omega)),
    Parse.bind_of_some (deserialize8_advance (by omega))]
  cases h : OptionType.ofByte (d.byteAt (d.position + 2)) <;> first | exact absurd h ht | rfl

/-- The common part of an option of unknown type drops the rest of the message. -/
lemma OptionImpl.remaining_deserialize (hr : 4 ≤ d.remaining)
    (ht : OptionType.ofByte (d.byteAt (d.position + 2)) = .unknown) :
    (OptionImpl.deserialize d).2.remaining = 0 := by
  rw [OptionImpl.deserialize, Parse.bind_of_some (deserialize16_of_le (by omega)),
    Parse.bind_of_some (deserialize8_advance (by omega)),
    Parse.bind_of_some (deserialize8_advance (by omega)), ht]
  rfl

/-- The common part of an option fails if it has less than four bytes. -/
lemma OptionImpl.deserialize_of_lt (hr : d.remaining < 4) :
    (OptionImpl.deserialize d).1 = none := by
  rcases Nat.lt_or_ge d.remaining 2 with h2 | h2
  · have e : deserialize16 d = (none, d) := by rw [deserialize16, if_pos (by omega)]
    rw [OptionImpl.deserialize, Parse.bind_of_none e]
  rw [OptionImpl.deserialize, Parse.bind_of_some (deserialize16_of_le h2)]
  rcases Nat.lt_or_ge 2 d.remaining with h3 | h3
  · rw [Parse.bind_of_some (deserialize8_advance h3),
      Parse.bind_of_none (deserialize8_advance_of_le (by omega))]
  · rw [Parse.bind_of_none (deserialize8_advance_of_le h3)]

end Head

/-! ### One option -/

section Body

variable {d : Deserializer}

/-- The run of an IP option whose first four bytes are good. -/
lemma IpOptionImpl.deserialize_eq {n : ℕ} {optionLength : UInt16} (hr : 4 ≤ d.remaining)
    (ht : OptionType.ofByte (d.byteAt (d.position + 2)) ≠ .unknown)
    (hl : bytesToWord (d.byteAt d.position) (d.byteAt (d.position + 1)) = optionLength) :
    ∃ o, IpOptionImpl.deserialize n optionLength d =
      (some o, d.advance (4 + attempted [n, 1, 1, 2] (d.remaining - 4))) := by
  have hbase := Parse.attempt_of_some (OptionImpl.deserialize_eq hr ht)
  have body : Tries [n, 1, 1, 2] _ :=
    (Tries.attempt (sequential_deserializeBytes n)).bind fun address =>
      (Tries.attempt sequential_deserialize8).bind fun reserved1 =>
      (Tries.attempt sequential_deserialize8).bind fun reserved2 =>
      (Tries.attempt sequential_deserialize16).bind fun port => Tries.pure
        ({ length := optionLength, type := OptionType.ofByte (d.byteAt (d.position + 2)),
           address := address.getD (List.Vector.replicate n 0),
           protocol := LayerFourProtocol.ofByte (reserved2.getD (reserved1.getD 0xFF)),
           port := port.getD 0xFFFF } : IpOptionImpl n)
  obtain ⟨o, ho⟩ := body (d.advance 4)
  refine ⟨o, ?_⟩
  rw [IpOptionImpl.deserialize, Parse.bind_of_some hbase]
  simp only [hl, if_true]
  rw [ho, advance_advance, remaining_advance]

/-- An IP option fails on a wrong length. -/
lemma IpOptionImpl.deserialize_of_ne {n : ℕ} {optionLength : UInt16} (hr : 4 ≤ d.remaining)
    (ht : OptionType.ofByte (d.byteAt (d.position + 2)) ≠ .unknown)
    (hl : bytesToWord (d.byteAt d.position) (d.byteAt (d.position + 1)) ≠ optionLength) :
    (IpOptionImpl.deserialize n optionLength d).1 = none := by
  have hbase := Parse.attempt_of_some (OptionImpl.deserialize_eq hr ht)
  rw [IpOptionImpl.deserialize, Parse.bind_of_some hbase]
  simp only [hl, if_false]
  rfl

/-- What a distance to the next option says of the run of a decoder from `d`: with `some s` the
option is read and the next one follows `s` bytes on, with `none` no option follows, because the
option cannot be read or nothing remains. -/
def Strides {α : Type} (m : Parse Deserializer α) (d : Deserializer) : Option ℕ → Prop
  | some s => ∃ o, m d = (some o, d.advance s)
  | none => (m d).1 = none ∨ (m d).2.remaining = 0

/-- Wrapping the value of a decoder does not change where it ends. -/
lemma Strides.wrap {α β : Type} {m : Parse Deserializer α} {s : Option ℕ} (h : Strides m d s)
    (g : α → β) : Strides (m >>= fun o => pure (g o)) d s := by
  cases s with
  | some s =>
    obtain ⟨o, ho⟩ := h
    exact ⟨g o, by rw [Parse.bind_of_some ho]; rfl⟩
  | none =>
    rcases hm : m d with ⟨_ | o, d'⟩
    · exact Or.inl (Parse.bind_fst_eq_none (by rw [hm]))
    · right
      simp only [Strides, hm, reduceCtorEq, false_or] at h
      rw [Parse.bind_of_some hm]
      exact h

/-- An option with less than four bytes cannot be read. -/
lemma strides_of_lt {α : Type} {f : OptionImpl → Parse Deserializer α} (hr : d.remaining < 4) :
    Strides (OptionImpl.deserialize >>= f) d none :=
  Or.inl (Parse.bind_fst_eq_none (OptionImpl.deserialize_of_lt hr))

/-- An option whose fields behind the common part have the widths `ws`. -/
lemma strides_fields {α : Type} {ws : List ℕ} {f : OptionImpl → Parse Deserializer α}
    (hf : ∀ base, Sequential ws (f base)) (hr : 4 ≤ d.remaining)
    (ht : OptionType.ofByte (d.byteAt (d.position + 2)) ≠ .unknown) :
    Strides (OptionImpl.deserialize >>= f) d
      (if 4 + ws.sum ≤ d.remaining then some (4 + ws.sum) else none) := by
  unfold Strides
  rw [Parse.bind_of_some (OptionImpl.deserialize_eq hr ht)]
  split_ifs with h
  · obtain ⟨o, ho⟩ := (hf _).eq_some (d := d.advance 4) (by rw [remaining_advance]; omega)
    exact ⟨o, by rw [ho, advance_advance]⟩
  · exact Or.inl (by rw [(hf _).eq_none (d := d.advance 4) (by rw [remaining_advance]; omega)])

/-- How far reading a load balancing option moves the position. -/
lemma LoadBalancingOptionImpl.strides_deserialize (hr : 4 ≤ d.remaining)
    (ht : OptionType.ofByte (d.byteAt (d.position + 2)) ≠ .unknown) :
    Strides LoadBalancingOptionImpl.deserialize d (if 8 ≤ d.remaining then some 8 else none) :=
  @strides_fields d _ [2, 2] _ (fun _ => sequential_deserialize16.bind fun _ =>
    sequential_deserialize16.bind fun _ => Sequential.pure _) hr ht

/-- How far reading a protection option moves the position. -/
lemma ProtectionOptionImpl.strides_deserialize (hr : 4 ≤ d.remaining)
    (ht : OptionType.ofByte (d.byteAt (d.position + 2)) ≠ .unknown) :
    Strides ProtectionOptionImpl.deserialize d (if 12 ≤ d.remaining then some 12 else none) :=
  @strides_fields d _ [4, 4] _ (fun _ => sequential_deserialize32.bind fun _ =>
    sequential_deserialize32.bind fun _ => Sequential.pure _) hr ht

/-- How far reading an address option moves the position. -/
lemma IpOptionImpl.strides_deserialize {n : ℕ} {optionLength : UInt16} (hr : 4 ≤ d.remaining)
    (ht : OptionType.ofByte (d.byteAt (d.position + 2)) ≠ .unknown) :
    Strides (IpOptionImpl.deserialize n optionLength) d
      (if bytesToWord (d.byteAt d.position) (d.byteAt (d.position + 1)) = optionLength then
        some (4 + attempted [n, 1, 1, 2] (d.remaining - 4)) else none) := by
  split_ifs with hl
  · exact IpOptionImpl.deserialize_eq hr ht hl
  · exact Or.inl (IpOptionImpl.deserialize_of_ne hr ht hl)

/-- An address option that is cut in its header is not read. -/
lemma IpOptionImpl.strides_of_lt {n : ℕ} {optionLength : UInt16} (hr : d.remaining < 4) :
    Strides (IpOptionImpl.deserialize n optionLength) d none := by
  left
  rw [IpOptionImpl.deserialize, Parse.attempt_bind, OptionImpl.deserialize_of_lt hr]
  rfl

/-- A round of the configuration option that succeeds reads at least one byte. -/
lemma ConfigurationOptionImpl.remaining_deserializeItem
    {conf conf' : List (List UInt8 × List UInt8)} {d' : Deserializer}
    (h : ConfigurationOptionImpl.deserializeItem conf d = (some conf', d')) :
    d'.remaining + 1 ≤ d.remaining := by
  rcases Nat.eq_zero_or_pos d.remaining with h0 | h0
  · have e : deserialize8 d = (none, d) := by rw [deserialize8, if_pos h0.symm]
    rw [deserializeItem, Parse.bind_of_none e] at h
    simp at h
  · have e := deserialize8_advance h0
    rw [advance_zero] at e
    rw [deserializeItem, Parse.bind_of_some e] at h
    have keeps := ConfigurationOptionImpl.keeps_addItem
      (advanceStable_remaining_le (d.remaining - 1)) conf (d.byteAt d.position) (d.advance 1) le_rfl
    simp only [Nat.add_zero] at h
    rw [h] at keeps
    dsimp only at keeps
    omega

/-- A configuration option that can be read leaves nothing to read. -/
lemma ConfigurationOptionImpl.remaining_deserializeItems (fuel : ℕ) :
    ∀ (conf conf' : List (List UInt8 × List UInt8)) (d d' : Deserializer), d.remaining ≤ fuel →
      ConfigurationOptionImpl.deserializeItems fuel conf d = (some conf', d') →
      d'.remaining = 0 := by
  induction fuel with
  | zero =>
    intro conf conf' d d' hd h
    have := ConfigurationOptionImpl.remaining_deserializeItem h
    omega
  | succ fuel ih =>
    intro conf conf' d d' hd h
    rcases hi : ConfigurationOptionImpl.deserializeItem conf d with ⟨_ | c, d₁⟩
    · rw [deserializeItems, Parse.bind_of_none hi] at h
      simp at h
    · have hlt := ConfigurationOptionImpl.remaining_deserializeItem hi
      rw [deserializeItems, Parse.bind_of_some hi] at h
      rw [Parse.get_bind] at h
      split_ifs at h with h0
      · exact ih c conf' d₁ d' (by omega) h
      · obtain ⟨-, rfl⟩ := Prod.mk.inj h
        omega

/-- No option follows a configuration option. -/
lemma ConfigurationOptionImpl.strides_deserialize (hr : 4 ≤ d.remaining)
    (ht : OptionType.ofByte (d.byteAt (d.position + 2)) ≠ .unknown) :
    Strides ConfigurationOptionImpl.deserialize d none := by
  unfold Strides
  rw [ConfigurationOptionImpl.deserialize, Parse.bind_of_some (OptionImpl.deserialize_eq hr ht),
    Parse.get_bind]
  rcases hi : deserializeItems (d.advance 4).remaining [] (d.advance 4) with ⟨_ | c, d₁⟩
  · exact Or.inl (Parse.bind_fst_eq_none (by rw [hi]))
  · right
    rw [Parse.bind_of_some hi]
    exact remaining_deserializeItems _ _ _ _ _ le_rfl hi

end Body

/-- The distance to the next option is the one that `optionStride` reads off the bytes. -/
lemma strides_deserializeOption {d : Deserializer} (hp : d.position + 2 < d.data.length) :
    match optionStride d.data d.position d.remaining with
    | some s => ∃ o, MessageImpl.deserializeOption d = (some o, (d.peek 2).advance s)
    | none => (MessageImpl.deserializeOption d).1 = none ∨
        (MessageImpl.deserializeOption d).2.remaining = 0 := by
  have hlook := lookAhead_of_lt (d := d) (i := 2) (by omega)
  rw [MessageImpl.deserializeOption, Parse.bind_of_some hlook, optionStride]
  have hb : d.data.getD (d.position + 2) 0 = d.byteAt (d.position + 2) := (byteAt_of_lt hp).symm
  have h1 : d.data.getD (d.position + 1) 0 = d.byteAt (d.position + 1) :=
    (byteAt_of_lt (by omega)).symm
  have h0 : d.data.getD d.position 0 = d.byteAt d.position := (byteAt_of_lt (by omega)).symm
  rw [hb, h1, h0]
  change Strides _ (d.peek 2) _
  by_cases hr : d.remaining < 4
  · rw [if_pos hr]
    have hr' : (d.peek 2).remaining < 4 := hr
    cases OptionType.ofByte (d.byteAt (d.position + 2)) with
    | configuration | loadBalancing | protection => exact (strides_of_lt hr').wrap _
    | ip4Endpoint | ip4Multicast | ip6Endpoint | ip6Multicast =>
      exact (IpOptionImpl.strides_of_lt hr').wrap _
    | unknown => exact strides_of_lt hr'
  · rw [if_neg hr]
    have hr' : 4 ≤ (d.peek 2).remaining := Nat.le_of_not_lt hr
    have known {t : OptionType} (h : OptionType.ofByte (d.byteAt (d.position + 2)) = t)
        (ht : t ≠ .unknown) : OptionType.ofByte ((d.peek 2).byteAt ((d.peek 2).position + 2)) ≠
          .unknown := by
      rwa [byteAt_peek, position_peek, h]
    cases ht : OptionType.ofByte (d.byteAt (d.position + 2)) with
    | configuration =>
      exact (ConfigurationOptionImpl.strides_deserialize hr' (known ht (by decide))).wrap _
    | loadBalancing =>
      exact (LoadBalancingOptionImpl.strides_deserialize hr' (known ht (by decide))).wrap _
    | protection =>
      exact (ProtectionOptionImpl.strides_deserialize hr' (known ht (by decide))).wrap _
    | ip4Endpoint | ip4Multicast | ip6Endpoint | ip6Multicast =>
      exact (IpOptionImpl.strides_deserialize hr' (known ht (by decide))).wrap _
    | unknown =>
      have h : Strides OptionImpl.deserialize (d.peek 2) none :=
        Or.inr (OptionImpl.remaining_deserialize hr' ht)
      exact h.wrap _

/-- Behind the look at its type byte an option is read with checked reads only. -/
lemma deserializeOption_keeps {I : Deserializer → Prop} (hI : AdvanceStable I) {d : Deserializer}
    (hd : d.data.length ≤ 2 → I d) (h : I (d.peek 2)) :
    I (MessageImpl.deserializeOption d).2 := by
  rcases Nat.lt_or_ge 2 d.data.length with h2 | h2
  swap
  · have e : lookAhead 2 d = (none, d) := by rw [lookAhead, if_pos h2]
    rw [MessageImpl.deserializeOption, Parse.bind_of_none e]
    exact hd h2
  rw [MessageImpl.deserializeOption, Parse.bind_of_some (lookAhead_of_lt h2)]
  have wrap {α : Type} {m : Parse Deserializer α} (hm : Parse.Keeps I m) (g : α → SdOption) :
      I ((m >>= fun o => pure (g o)) (d.peek 2)).2 := hm.bind (fun _ => Parse.Keeps.pure _) _ h
  cases OptionType.ofByte (d.byteAt (d.position + 2)) with
  | configuration => exact wrap (ConfigurationOptionImpl.keeps_deserialize hI) _
  | loadBalancing => exact wrap (LoadBalancingOptionImpl.keeps_deserialize hI) _
  | protection => exact wrap (ProtectionOptionImpl.keeps_deserialize hI) _
  | ip4Endpoint | ip4Multicast | ip6Endpoint | ip6Multicast =>
    exact wrap (IpOptionImpl.keeps_deserialize hI _ _) _
  | unknown => exact wrap (OptionImpl.keeps_deserialize hI) _

/-! ### The loop over the options -/

/-- No more is tried than may be read. -/
lemma attempted_le : ∀ (ws : List ℕ) (r : ℕ), attempted ws r ≤ r
  | [], _ => Nat.zero_le _
  | w :: ws, r => by
    simp only [attempted]
    split_ifs with h
    · have := attempted_le ws (r - w)
      omega
    · exact attempted_le ws r

/-- An option that is followed by another one takes some of the remaining bytes. -/
lemma optionStride_le {data : List UInt8} {p r s : ℕ} (h : optionStride data p r = some s) :
    0 < s ∧ s ≤ r := by
  have h4 := attempted_le [4, 1, 1, 2] (r - 4)
  have h16 := attempted_le [16, 1, 1, 2] (r - 4)
  by_cases hr : r < 4
  · simp [optionStride, hr] at h
  · rw [optionStride, if_neg hr] at h
    split at h
    all_goals first
      | split_ifs at h; simp only [Option.some.injEq] at h; omega
      | simp at h

/-- Options stay inside the data if the first one does and all that follow it. -/
lemma optionsInside_iff {data : List UInt8} {lim p : ℕ} :
    OptionsInside data lim p ↔ (p < lim → p + 2 < data.length) ∧
      ∀ q, OptionStep data lim p q → OptionsInside data lim q := by
  constructor
  · intro h
    exact ⟨h p .refl, fun q hq q' hq' => h q' (.head hq hq')⟩
  · rintro ⟨h0, h⟩ q hq
    rcases hq.cases_head with rfl | ⟨q', hq', hrest⟩
    · exact h0
    · exact h q' hq' q hrest

/-- A start of the options at their end is harmless. -/
lemma optionsInside_of_le {data : List UInt8} {lim p : ℕ} (h : lim ≤ p) :
    OptionsInside data lim p := by
  intro q hq hlt
  have : p ≤ q := by
    clear hlt
    induction hq with
    | refl => exact le_rfl
    | tail _ hstep ih =>
      obtain ⟨s, -, rfl⟩ := hstep
      omega
  omega

/-- The loop over the options succeeds whatever the options are. -/
lemma optionsLoop_eq_some (fuel : ℕ) : ∀ (options : List SdOption) (d : Deserializer),
    ∃ l d', MessageImpl.optionsLoop fuel options d = (some l, d') := by
  induction fuel with
  | zero => exact fun options d => ⟨options, d, rfl⟩
  | succ fuel ih =>
    intro options d
    rw [MessageImpl.optionsLoop, Parse.get_bind]
    split_ifs
    · exact ⟨options, d, rfl⟩
    · rw [Parse.attempt_bind]
      rcases MessageImpl.deserializeOption d with ⟨_ | o, d'⟩
      · exact ⟨options, d', rfl⟩
      · exact ih _ d'

/-- A read outside the data before the loop over the options stays on record. -/
lemma optionsLoop_keeps_not_inBounds (fuel : ℕ) :
    ∀ options, Parse.Keeps (fun d => ¬ d.InBounds) (MessageImpl.optionsLoop fuel options) := by
  induction fuel with
  | zero => exact fun options => Parse.Keeps.pure _
  | succ fuel ih =>
    refine fun options => Parse.Keeps.get.bind fun d => ?_
    split_ifs
    · exact Parse.Keeps.pure _
    · have hopt : Parse.Keeps (fun d => ¬ d.InBounds) MessageImpl.deserializeOption :=
        fun d hd => deserializeOption_keeps advanceStable_not_inBounds (fun _ => hd)
          (fun h => hd ((inBounds_peek d 2).mp h).1)
      refine hopt.attempt.bind fun o => ?_
      cases o with
      | some o => exact ih _
      | none => exact Parse.Keeps.pure _

/-- Nothing remaining ends the loop over the options. -/
lemma optionsLoop_of_remaining_eq_zero {d : Deserializer} (h : d.remaining = 0) (fuel : ℕ)
    (options : List SdOption) : MessageImpl.optionsLoop fuel options d = (some options, d) := by
  cases fuel with
  | zero => rfl
  | succ fuel => rw [MessageImpl.optionsLoop, Parse.get_bind, if_pos h, Parse.pure_apply]

section Round

variable {d d' : Deserializer} {fuel : ℕ} {options : List SdOption}

/-- A round that reads an option goes on behind it. -/
lemma optionsLoop_of_some {o : SdOption} (h0 : 0 < d.remaining)
    (h : MessageImpl.deserializeOption d = (some o, d')) :
    MessageImpl.optionsLoop (fuel + 1) options d =
      MessageImpl.optionsLoop fuel (options ++ [o]) d' := by
  rw [MessageImpl.optionsLoop, Parse.get_bind, if_neg (by omega),
    Parse.bind_of_some (Parse.attempt_of_some h)]

/-- A round that reads no option is the last one. -/
lemma optionsLoop_of_none (h0 : 0 < d.remaining)
    (h : MessageImpl.deserializeOption d = (none, d')) :
    MessageImpl.optionsLoop (fuel + 1) options d = (some options, d') := by
  rw [MessageImpl.optionsLoop, Parse.get_bind, if_neg (by omega), Parse.attempt_bind, h]
  rfl

/-- The state behind the loop when no option follows the first one. -/
lemma optionsLoop_snd_of_last (h0 : 0 < d.remaining)
    (h : (MessageImpl.deserializeOption d).1 = none ∨
      (MessageImpl.deserializeOption d).2.remaining = 0) :
    (MessageImpl.optionsLoop (fuel + 1) options d).2 = (MessageImpl.deserializeOption d).2 := by
  rcases hm : MessageImpl.deserializeOption d with ⟨_ | o, d'⟩
  · rw [optionsLoop_of_none h0 hm]
  · rw [optionsLoop_of_some h0 hm, optionsLoop_of_remaining_eq_zero (by simpa [hm] using h)]

end Round

/-- From a safe cursor, the loop over the options stays inside the data exactly if every option it
starts has its type byte there.

**Proof sketch.** Induction on the number of rounds. In a round the look at the type byte is the
only read that is not checked; if it leaves the data, that read stays on record to the end.
Otherwise the option is read safely, and the next round starts where `optionStride` says. -/
lemma inBounds_optionsLoop_iff (fuel : ℕ) : ∀ (options : List SdOption) (d : Deserializer),
    d.Safe → d.remaining ≤ fuel → 2 < d.data.length →
    ((MessageImpl.optionsLoop fuel options d).2.InBounds ↔
      OptionsInside d.data (d.position + d.remaining) d.position) := by
  induction fuel with
  | zero =>
    intro options d hs hr _
    rw [optionsLoop_of_remaining_eq_zero (by omega)]
    exact iff_of_true hs.inBounds (optionsInside_of_le (by omega))
  | succ fuel ih =>
    intro options d hs hr h2
    rcases Nat.eq_zero_or_pos d.remaining with h0 | h0
    · rw [optionsLoop_of_remaining_eq_zero h0]
      exact iff_of_true hs.inBounds (optionsInside_of_le (by omega))
    rw [optionsInside_iff]
    have hlast : ∀ {s q}, OptionStep d.data (d.position + d.remaining) d.position q →
        optionStride d.data d.position d.remaining = s → ∃ t, s = some t ∧ q = d.position + t := by
      rintro s q ⟨t, ht, rfl⟩ rfl
      rw [Nat.add_sub_cancel_left] at ht
      exact ⟨t, ht, rfl⟩
    rcases Nat.lt_or_ge (d.position + 2) d.data.length with hp | hp
    · have hsafe := deserializeOption_keeps advanceStable_safe (fun _ => hs) (hs.peek hp)
      have hstride := strides_deserializeOption hp
      cases hst : optionStride d.data d.position d.remaining with
      | some s =>
        simp only [hst] at hstride
        obtain ⟨o, ho⟩ := hstride
        obtain ⟨hs0, hsr⟩ := optionStride_le hst
        rw [ho] at hsafe
        rw [optionsLoop_of_some h0 ho, ih _ _ hsafe (by simp; omega) h2]
        simp only [data_advance, data_peek, position_advance, position_peek, remaining_advance,
          remaining_peek]
        rw [show d.position + s + (d.remaining - s) = d.position + d.remaining by omega]
        constructor
        · refine fun h => ⟨fun _ => hp, fun q hq => ?_⟩
          obtain ⟨t, ht, rfl⟩ := hlast hq hst
          cases ht
          exact h
        · exact fun h => h.2 _ ⟨s, by rw [Nat.add_sub_cancel_left, hst], rfl⟩
      | none =>
        simp only [hst] at hstride
        rw [optionsLoop_snd_of_last h0 hstride]
        refine iff_of_true hsafe.inBounds ⟨fun _ => hp, fun q hq => ?_⟩
        obtain ⟨t, ht, -⟩ := hlast hq hst
        cases ht
    · -- the look at the type byte leaves the data
      have hout : ¬ (MessageImpl.deserializeOption d).2.InBounds :=
        deserializeOption_keeps advanceStable_not_inBounds (fun h => absurd h2 (by omega))
          (fun h => absurd ((inBounds_peek d 2).mp h).2 (by omega))
      refine iff_of_false ?_ (fun h => absurd (h.1 (by omega)) (by omega))
      rcases hm : MessageImpl.deserializeOption d with ⟨_ | o, d'⟩
      · rw [optionsLoop_of_none h0 hm]
        rwa [hm] at hout
      · rw [optionsLoop_of_some h0 hm]
        rw [hm] at hout
        exact optionsLoop_keeps_not_inBounds fuel _ d' hout

end Vsomeip.Sd
