import Vsomeip.ServiceDiscovery.OptionBounds

set_option relaxedAutoImplicit false
set_option autoImplicit false

/-!
# Reads of the service discovery parser

Which bytes `deserialize_sd_message` reads. Two reads are not checked against the received bytes.
The length of the entries array is installed as the number of remaining bytes whatever it is, so
the entries are read where it says; and the type byte of an option is read even if the message ends
in front of it.

The parser stays inside the received bytes exactly if both arrays do, which `EntriesInside` and
`OptionsInside` say on the bytes alone. A wrong length of the entries array is then refused, but a wrong
length of the options array or of an option only ends the loop over the options.

## Main definitions

* `Vsomeip.Sd.EntriesInside` — every entry that is started has its bytes.
* `Vsomeip.Sd.LengthsInside` — entries and options of a message stay inside it.
* `Vsomeip.Sd.LengthsWellFormed` — the length fields of a message say how long its parts are.
* `Vsomeip.Sd.EntriesRead` — a message whose options do not matter any more.
* `Vsomeip.Sd.ParsesInside` — the parser reads received bytes only, and refuses a message with a length
  that is not well formed.

## Main results

* `Vsomeip.Sd.entriesRun_entriesLoop` — the loop over the entries does what the bytes say.
* `Vsomeip.Sd.parsesInside_iff` — the parser does so exactly if both arrays stay inside the message, and
  the lengths of the options are well formed unless the entries are refused.
-/

namespace Vsomeip.Sd

open Deserializer

/-! ## Entries -/

/-- The widths of the fields of an entry, by the class `deserialize_entry` picks for its type. -/
def entryWidths (t : EntryType) : Option (List ℕ) :=
  if t.isService then some ServiceentryImpl.widths
  else if t.isEventgroup then some EventgroupentryImpl.widths
  else none

/-- The entry at `p` is read by some class. -/
def KnownEntry (data : List UInt8) (p : ℕ) : Prop :=
  (entryWidths (EntryType.ofByte (data.getD p 0))).isSome

/-- Every entry that is started, in an array of `r` bytes from `p` on, has its type byte and the
bytes of its fields in the data. Entry `k` is started if the array reaches it and all entries in
front of it are read. -/
def EntriesInside (data : List UInt8) (p r : ℕ) : Prop :=
  ∀ k, 16 * k < r → (∀ j < k, KnownEntry data (p + 16 * j)) →
    p + 16 * k < data.length ∧
      ∀ ws, entryWidths (EntryType.ofByte (data.getD (p + 16 * k) 0)) = some ws →
        p + 16 * k + consumed ws (r - 16 * k) ≤ data.length

/-- The array of `r` bytes from `p` on consists of entries that are read. -/
def EntriesAccepted (data : List UInt8) (p r : ℕ) : Prop :=
  16 ∣ r ∧ ∀ k, 16 * k < r → KnownEntry data (p + 16 * k)

/-- An entry takes 16 bytes. -/
lemma sum_entryWidths {t : EntryType} {ws : List ℕ} (h : entryWidths t = some ws) : ws.sum = 16 := by
  unfold entryWidths at h
  split_ifs at h <;> cases h <;> rfl

/-- Entries stay inside the data if the first one does and all that follow it. -/
lemma entriesInside_iff {data : List UInt8} {p r : ℕ} (hr : 0 < r) :
    EntriesInside data p r ↔
      (p < data.length ∧ ∀ ws, entryWidths (EntryType.ofByte (data.getD p 0)) = some ws →
        p + consumed ws r ≤ data.length) ∧
      (KnownEntry data p → EntriesInside data (p + 16) (r - 16)) := by
  have shift (k : ℕ) : p + 16 + 16 * k = p + 16 * (k + 1) := by omega
  constructor
  · intro h
    refine ⟨by simpa using h 0 (by omega) (by simp), fun hp k hk hprev => ?_⟩
    have := h (k + 1) (by omega) (fun j hj => ?_)
    · rwa [shift, show r - 16 - 16 * k = r - 16 * (k + 1) by omega]
    · cases j with
      | zero => exact hp
      | succ j =>
        rw [← shift]
        exact hprev j (by omega)
  · rintro ⟨h0, h⟩ k hk hprev
    cases k with
    | zero => simpa using h0
    | succ k =>
      have := h (hprev 0 (by omega)) k (by omega) (fun j hj => by
        rw [shift]
        exact hprev (j + 1) (by omega))
      rwa [shift, show r - 16 - 16 * k = r - 16 * (k + 1) by omega] at this

/-- The entries that are accepted, from the first one on. -/
lemma entriesAccepted_iff {data : List UInt8} {p r : ℕ} (hr : 0 < r) :
    EntriesAccepted data p r ↔
      KnownEntry data p ∧ 16 ≤ r ∧ EntriesAccepted data (p + 16) (r - 16) := by
  have shift (k : ℕ) : p + 16 + 16 * k = p + 16 * (k + 1) := by omega
  constructor
  · rintro ⟨hd, h⟩
    have hle := Nat.le_of_dvd hr hd
    refine ⟨h 0 (by omega), hle, by omega, fun k hk => ?_⟩
    rw [shift]
    exact h (k + 1) (by omega)
  · rintro ⟨hp, hle, hd, h⟩
    refine ⟨by omega, fun k hk => ?_⟩
    cases k with
    | zero => exact hp
    | succ k =>
      rw [← shift]
      exact h k (by omega)

/-- Entries that stay inside the data and are all read end inside the data. -/
lemma EntriesInside.le_of_accepted {data : List UInt8} {p r : ℕ} (h : EntriesInside data p r)
    (hacc : EntriesAccepted data p r) (hp : p ≤ data.length) : p + r ≤ data.length := by
  obtain ⟨⟨q, rfl⟩, hknown⟩ := hacc
  cases q with
  | zero => simpa using hp
  | succ q =>
    obtain ⟨-, hlast⟩ := h q (by omega) fun j hj => hknown j (by omega)
    obtain ⟨ws, hws⟩ := Option.isSome_iff_exists.mp (hknown q (by omega))
    have := hlast ws hws
    rw [consumed_of_sum_le (by rw [sum_entryWidths hws]; omega), sum_entryWidths hws] at this
    omega

section Entry

variable {d : Deserializer}

/-- The run of an entry that some class reads. -/
lemma deserializeEntry_of_some {ws : List ℕ} (h0 : 0 < d.data.length)
    (h : entryWidths (EntryType.ofByte (d.byteAt d.position)) = some ws) :
    if 16 ≤ d.remaining then
      ∃ e, MessageImpl.deserializeEntry d = (some e, (d.peek 0).advance 16)
    else MessageImpl.deserializeEntry d = (none, (d.peek 0).advance (consumed ws d.remaining)) := by
  have key {α : Type} {m : Parse Deserializer α} (hm : Sequential ws m) (g : α → Entry) :
      Sequential ws (m >>= fun e => pure (g e)) := by
    simpa using hm.bind fun e => Sequential.pure (g e)
  have run {m : Parse Deserializer Entry} (hm : Sequential ws m) :
      if 16 ≤ d.remaining then ∃ e, m (d.peek 0) = (some e, (d.peek 0).advance 16)
      else m (d.peek 0) = (none, (d.peek 0).advance (consumed ws d.remaining)) := by
    have hsum := sum_entryWidths h
    split_ifs with hr
    · simpa [hsum] using hm.eq_some (d := d.peek 0) (by rw [hsum]; exact hr)
    · exact hm.eq_none (d := d.peek 0) (by rw [hsum]; exact hr)
  rw [MessageImpl.deserializeEntry, Parse.bind_of_some (lookAhead_of_lt h0)]
  unfold entryWidths at h
  simp only [Nat.add_zero]
  split_ifs at h with hs he
  · cases h
    simp only [if_pos hs]
    exact run (key ServiceentryImpl.sequential_deserialize _)
  · cases h
    simp only [if_neg hs, if_pos he]
    exact run (key EventgroupentryImpl.sequential_deserialize _)

/-- An entry of a type no class reads. -/
lemma deserializeEntry_of_none (h0 : 0 < d.data.length)
    (h : entryWidths (EntryType.ofByte (d.byteAt d.position)) = none) :
    MessageImpl.deserializeEntry d = (none, d.peek 0) := by
  rw [MessageImpl.deserializeEntry, Parse.bind_of_some (lookAhead_of_lt h0)]
  unfold entryWidths at h
  split_ifs at h with hs he
  simp only [Nat.add_zero, if_neg hs, if_neg he]
  rfl

end Entry

/-! ### The loop over the entries -/

section Round

variable {d d' : Deserializer} {fuel : ℕ} {m : MessageImpl}

/-- Nothing remaining ends the loop over the entries. -/
lemma entriesLoop_of_remaining_eq_zero (h : d.remaining = 0) (fuel : ℕ) (m : MessageImpl) :
    MessageImpl.entriesLoop fuel m d = (some m, d) := by
  cases fuel with
  | zero => rfl
  | succ fuel => rw [MessageImpl.entriesLoop, Parse.get_bind, if_pos h, Parse.pure_apply]

/-- A round that reads an entry goes on behind it. -/
lemma entriesLoop_of_some {e : Entry} (h0 : 0 < d.remaining)
    (h : MessageImpl.deserializeEntry d = (some e, d')) :
    MessageImpl.entriesLoop (fuel + 1) m d = MessageImpl.entriesLoop fuel (m.addEntry e) d' := by
  rw [MessageImpl.entriesLoop, Parse.get_bind, if_neg (by omega), Parse.bind_of_some h]

/-- A round that reads no entry is the last one. -/
lemma entriesLoop_of_none (h0 : 0 < d.remaining)
    (h : MessageImpl.deserializeEntry d = (none, d')) :
    MessageImpl.entriesLoop (fuel + 1) m d = (none, d') := by
  rw [MessageImpl.entriesLoop, Parse.get_bind, if_neg (by omega), Parse.bind_of_none h]

end Round

/-- An entry is looked at and then read in one piece or not to its end. -/
lemma deserializeEntry_cases {d : Deserializer} (h0 : 0 < d.data.length) :
    (16 ≤ d.remaining ∧ ∃ e, MessageImpl.deserializeEntry d = (some e, (d.peek 0).advance 16)) ∨
      ∃ n, MessageImpl.deserializeEntry d = (none, (d.peek 0).advance n) := by
  cases hw : entryWidths (EntryType.ofByte (d.byteAt d.position)) with
  | none => exact Or.inr ⟨0, by rw [deserializeEntry_of_none h0 hw, advance_zero]⟩
  | some ws =>
    have hrun := deserializeEntry_of_some h0 hw
    split_ifs at hrun with hr
    · exact Or.inl ⟨hr, hrun⟩
    · exact Or.inr ⟨_, hrun⟩

/-- The loop over the entries leaves the data alone, and ends behind the array if it succeeds. -/
lemma entriesLoop_cursor (fuel : ℕ) : ∀ (m : MessageImpl) (d : Deserializer),
    0 < d.data.length → d.remaining ≤ fuel →
    (MessageImpl.entriesLoop fuel m d).2.data = d.data ∧
      ((MessageImpl.entriesLoop fuel m d).1.isSome →
        (MessageImpl.entriesLoop fuel m d).2.position = d.position + d.remaining) := by
  induction fuel with
  | zero =>
    intro m d _ hr
    rw [entriesLoop_of_remaining_eq_zero (by omega)]
    exact ⟨rfl, fun _ => by dsimp only; omega⟩
  | succ fuel ih =>
    intro m d h0 hr
    rcases Nat.eq_zero_or_pos d.remaining with hz | hz
    · rw [entriesLoop_of_remaining_eq_zero hz]
      exact ⟨rfl, fun _ => by dsimp only; omega⟩
    rcases deserializeEntry_cases h0 with ⟨h16, e, he⟩ | ⟨n, hn⟩
    · obtain ⟨hdata, hpos⟩ := ih (m.addEntry e) ((d.peek 0).advance 16) h0 (by simp; omega)
      rw [entriesLoop_of_some hz he]
      refine ⟨hdata, fun h => ?_⟩
      rw [hpos h]
      simp only [position_advance, position_peek, remaining_advance, remaining_peek]
      omega
    · rw [entriesLoop_of_none hz hn]
      exact ⟨rfl, by simp⟩

/-- A read outside the data before the loop over the entries stays on record. -/
lemma not_inBounds_entriesLoop (fuel : ℕ) : ∀ (m : MessageImpl) (d : Deserializer),
    0 < d.data.length → ¬ d.InBounds → ¬ (MessageImpl.entriesLoop fuel m d).2.InBounds := by
  induction fuel with
  | zero => exact fun m d _ h => h
  | succ fuel ih =>
    intro m d h0 h
    have keep (n : ℕ) : ¬ ((d.peek 0).advance n).InBounds :=
      fun h' => h ((inBounds_peek d 0).mp ((inBounds_advance _ n).mp h').1).1
    rcases Nat.eq_zero_or_pos d.remaining with hz | hz
    · rwa [entriesLoop_of_remaining_eq_zero hz]
    rcases deserializeEntry_cases h0 with ⟨-, e, he⟩ | ⟨n, hn⟩
    · rw [entriesLoop_of_some hz he]
      exact ih _ _ h0 (keep 16)
    · rw [entriesLoop_of_none hz hn]
      exact keep n

/-- What the bytes say of a run `r` of the loop over the entries from `d`. -/
structure EntriesRun (d : Deserializer) (r : Option MessageImpl × Deserializer) : Prop where
  inBounds_iff : r.2.InBounds ↔ EntriesInside d.data d.position d.remaining
  isSome_iff : EntriesInside d.data d.position d.remaining →
    (r.1.isSome ↔ EntriesAccepted d.data d.position d.remaining)

/-- An array of no bytes is read in no round. -/
lemma EntriesRun.done {d : Deserializer} (hd : d.InBounds) (hr : d.remaining = 0)
    (m : MessageImpl) : EntriesRun d (some m, d) where
  inBounds_iff := iff_of_true hd (fun k hk => by omega)
  isSome_iff := fun _ => iff_of_true rfl ⟨by omega, fun k hk => by omega⟩

/-- A run that has read outside the data, as the bytes say. -/
lemma EntriesRun.outside {d : Deserializer} {r : Option MessageImpl × Deserializer}
    (hr : ¬ r.2.InBounds) (h : ¬ EntriesInside d.data d.position d.remaining) : EntriesRun d r where
  inBounds_iff := iff_of_false hr h
  isSome_iff := fun h' => absurd h' h

section RunSteps

variable {d : Deserializer} {fuel : ℕ} {m : MessageImpl}

/-- A round that leaves the data in its entry has left it for good. -/
lemma not_inBounds_of_deserializeEntry (hz : 0 < d.remaining) (h0 : 0 < d.data.length) {n : ℕ}
    (hn : ¬ ((d.peek 0).advance n).InBounds)
    (hst : (MessageImpl.deserializeEntry d).2 = (d.peek 0).advance n) :
    ¬ (MessageImpl.entriesLoop (fuel + 1) m d).2.InBounds := by
  rcases hm : MessageImpl.deserializeEntry d with ⟨_ | e, d'⟩
  · rw [hm] at hst
    rwa [entriesLoop_of_none hz hm, hst]
  · rw [hm] at hst
    subst hst
    rw [entriesLoop_of_some hz hm]
    exact not_inBounds_entriesLoop fuel _ _ h0 hn

/-- The look at a type byte leaves the data. -/
lemma EntriesRun.of_le (hz : 0 < d.remaining) (h0 : 0 < d.data.length)
    (hp : d.data.length ≤ d.position) : EntriesRun d (MessageImpl.entriesLoop (fuel + 1) m d) := by
  have hpeek (n : ℕ) : ¬ ((d.peek 0).advance n).InBounds := fun h =>
    absurd ((inBounds_peek d 0).mp ((inBounds_advance _ n).mp h).1).2 (by omega)
  refine .outside ?_ fun h => absurd ((entriesInside_iff hz).mp h).1.1 (by omega)
  rcases deserializeEntry_cases h0 with ⟨-, e, he⟩ | ⟨n, hn⟩
  · exact not_inBounds_of_deserializeEntry hz h0 (hpeek 16) (by rw [he])
  · exact not_inBounds_of_deserializeEntry hz h0 (hpeek n) (by rw [hn])

/-- An entry of a type no class reads is the last one. -/
lemma EntriesRun.of_none (hd : d.InBounds) (hz : 0 < d.remaining) (hp : d.position < d.data.length)
    (hw : entryWidths (EntryType.ofByte (d.byteAt d.position)) = none) :
    EntriesRun d (MessageImpl.entriesLoop (fuel + 1) m d) := by
  have hbyte := byteAt_of_lt hp
  have hun : ¬ KnownEntry d.data d.position := by
    rw [KnownEntry, ← hbyte, hw]
    simp
  rw [entriesLoop_of_none hz (deserializeEntry_of_none (by omega) hw)]
  constructor
  · refine iff_of_true ((inBounds_peek d 0).mpr ⟨hd, by omega⟩)
      ((entriesInside_iff hz).mpr ⟨⟨hp, fun ws hws => ?_⟩, fun h => absurd h hun⟩)
    rw [← hbyte, hw] at hws
    cases hws
  · exact fun _ => iff_of_false (by simp) fun h => hun ((entriesAccepted_iff hz).mp h).1

section Known

variable {ws : List ℕ} (hd : d.InBounds) (hz : 0 < d.remaining) (hp : d.position < d.data.length)
variable (hw : entryWidths (EntryType.ofByte (d.byteAt d.position)) = some ws)
include hp hw

/-- An entry that is read has a known type. -/
lemma knownEntry_of_some : KnownEntry d.data d.position := by
  rw [KnownEntry, ← byteAt_of_lt hp, hw]
  rfl

include hz

/-- An array that begins with an entry of a known type stays inside if the entry and the rest do. -/
lemma entriesInside_of_some : EntriesInside d.data d.position d.remaining ↔
    d.position + consumed ws d.remaining ≤ d.data.length ∧
      EntriesInside d.data (d.position + 16) (d.remaining - 16) := by
  have hknown := knownEntry_of_some hp hw
  rw [entriesInside_iff hz, ← byteAt_of_lt hp, hw]
  simp [hp, hknown]

include hd

/-- An entry that the array does not contain to its end is the last one. -/
lemma EntriesRun.of_lt (h16 : ¬ 16 ≤ d.remaining) :
    EntriesRun d (MessageImpl.entriesLoop (fuel + 1) m d) := by
  have hrun := deserializeEntry_of_some (by omega) hw
  rw [if_neg h16] at hrun
  rw [entriesLoop_of_none hz hrun]
  have hpeek : (d.peek 0).InBounds := (inBounds_peek d 0).mpr ⟨hd, by omega⟩
  have hend : EntriesInside d.data (d.position + 16) (d.remaining - 16) := fun k hk => by omega
  constructor
  · rw [entriesInside_of_some hz hp hw, inBounds_advance]
    simp only [hpeek, hend, true_and, and_true, position_peek, data_peek]
    omega
  · exact fun _ => iff_of_false (by simp) fun h => h16 ((entriesAccepted_iff hz).mp h).2.1

/-- After an entry the loop goes on sixteen bytes behind it. -/
lemma EntriesRun.of_some (h16 : 16 ≤ d.remaining)
    (ih : ∀ m, ((d.peek 0).advance 16).InBounds → EntriesRun ((d.peek 0).advance 16)
      (MessageImpl.entriesLoop fuel m ((d.peek 0).advance 16))) :
    EntriesRun d (MessageImpl.entriesLoop (fuel + 1) m d) := by
  have hrun := deserializeEntry_of_some (by omega) hw
  rw [if_pos h16] at hrun
  obtain ⟨e, he⟩ := hrun
  have hpeek : (d.peek 0).InBounds := (inBounds_peek d 0).mpr ⟨hd, by omega⟩
  have hc : consumed ws d.remaining = 16 := by
    rw [consumed_of_sum_le (by rw [sum_entryWidths hw]; exact h16), sum_entryWidths hw]
  have hfirst := entriesInside_of_some hz hp hw
  rw [hc] at hfirst
  by_cases hin : d.position + 16 ≤ d.data.length
  · have hrec := ih (m.addEntry e) ((inBounds_advance _ 16).mpr ⟨hpeek, Or.inr hin⟩)
    rw [entriesLoop_of_some hz he]
    refine ⟨?_, fun h => ?_⟩
    · rw [hrec.inBounds_iff, hfirst]
      simp [hin]
    · rw [hrec.isSome_iff (hfirst.mp h).2, entriesAccepted_iff hz]
      simp [knownEntry_of_some hp hw, h16]
  · refine .outside (not_inBounds_of_deserializeEntry hz (by omega) (fun h => ?_) (by rw [he]))
      fun h => hin (hfirst.mp h).1
    exact hin (by simpa using ((inBounds_advance _ 16).mp h).2)

end Known

end RunSteps

/-- The loop over the entries does what the bytes say.

**Proof sketch.** Induction on the number of rounds. A round that looks at a type byte or reads a
field outside the data leaves that read on record; otherwise the type byte is the one of the data,
and the next round starts sixteen bytes on or there is none. -/
lemma entriesRun_entriesLoop (fuel : ℕ) : ∀ (m : MessageImpl) (d : Deserializer), d.InBounds →
    0 < d.data.length → d.remaining ≤ fuel → EntriesRun d (MessageImpl.entriesLoop fuel m d) := by
  induction fuel with
  | zero =>
    intro m d hd _ hr
    rw [entriesLoop_of_remaining_eq_zero (by omega)]
    exact .done hd (by omega) m
  | succ fuel ih =>
    intro m d hd h0 hr
    rcases Nat.eq_zero_or_pos d.remaining with hz | hz
    · rw [entriesLoop_of_remaining_eq_zero hz]
      exact .done hd hz m
    rcases Nat.lt_or_ge d.position d.data.length with hp | hp
    · cases hw : entryWidths (EntryType.ofByte (d.byteAt d.position)) with
      | none => exact .of_none hd hz hp hw
      | some ws =>
        by_cases h16 : 16 ≤ d.remaining
        · refine .of_some hd hz hp hw h16 fun m h => ih m _ h h0 ?_
          simp only [remaining_advance, remaining_peek]
          omega
        · exact .of_lt hd hz hp hw h16
    · exact .of_le hz h0 hp

/-! ## Messages -/

/-- The 32-bit number at an offset. -/
def longAt (data : List UInt8) (p : ℕ) : UInt32 :=
  bytesToLong (data.getD p 0) (data.getD (p + 1) 0) (data.getD (p + 2) 0) (data.getD (p + 3) 0)

/-- The length field of the entries array of a message. -/
def entriesLengthField (data : List UInt8) : ℕ := (longAt data 20).toNat

/-- The number of bytes that `deserialize` expects behind the entries, a 32-bit number. -/
def restLength (data : List UInt8) : ℕ :=
  (UInt32.ofNat (data.length - 24) - longAt data 20).toNat

/-- The arrays of a message stay inside its bytes: every entry that is started does, and if all
entries are read and the length of the options array can be read, every option that is started has
its type byte. A message without the 24 bytes in front of the entries has no arrays. -/
def LengthsInside (data : List UInt8) : Prop :=
  24 ≤ data.length →
    EntriesInside data 24 (entriesLengthField data) ∧
    (EntriesAccepted data 24 (entriesLengthField data) → 4 ≤ restLength data →
      OptionsInside data
        (28 + entriesLengthField data +
          min (longAt data (24 + entriesLengthField data)).toNat (restLength data - 4))
        (28 + entriesLengthField data))

/-- The length field of the options array of a message. -/
def optionsLengthField (data : List UInt8) : ℕ :=
  (longAt data (24 + entriesLengthField data)).toNat

/-- The length field of an option. -/
def optionLengthField (data : List UInt8) (p : ℕ) : UInt16 :=
  bytesToWord (data.getD p 0) (data.getD (p + 1) 0)

/-- An option has the length of its type, if the type has one, and at least its reserved byte. -/
def OptionLengthFits (length : UInt16) : OptionType → Prop
  | .ip4Endpoint | .ip4Multicast => length = ipv4OptionLength
  | .ip6Endpoint | .ip6Multicast => length = ipv6OptionLength
  | .loadBalancing => length = 1 + 2 + 2
  | .protection => length = 1 + 4 + 4
  | .configuration | .unknown => 1 ≤ length

/-- An option starts where the length of the one in front of it says. -/
def NextOption (data : List UInt8) (lim p q : ℕ) : Prop :=
  p < lim ∧ q = p + 3 + (optionLengthField data p).toNat

/-- The options from `p` to `lim` have lengths that fit, and do not reach behind `lim`. -/
def OptionLengthsFit (data : List UInt8) (lim p : ℕ) : Prop :=
  ∀ q, Relation.ReflTransGen (NextOption data lim) p q → q < lim →
    q + 3 + (optionLengthField data q).toNat ≤ lim ∧
      OptionLengthFits (optionLengthField data q) (OptionType.ofByte (data.getD (q + 2) 0))

/-- If a message has an options array, it ends inside the message, and so do its options inside of it. -/
def OptionsWellFormed (data : List UInt8) : Prop :=
  28 + entriesLengthField data ≤ data.length →
    28 + entriesLengthField data + optionsLengthField data ≤ data.length ∧
      OptionLengthsFit data (28 + entriesLengthField data + optionsLengthField data)
        (28 + entriesLengthField data)

/-- The length fields of a message say how long its parts are. -/
structure LengthsWellFormed (data : List UInt8) : Prop where
  entries : entriesLengthField data ≤ data.length - 24
  whole : 16 ∣ entriesLengthField data
  options : OptionsWellFormed data

/-- All entries are read, and the length of the options array is there or not expected. -/
structure EntriesRead (data : List UInt8) : Prop where
  prelude : 24 ≤ data.length
  accepted : EntriesAccepted data 24 (entriesLengthField data)
  rest : restLength data = 0 ∨ 4 ≤ restLength data

section Prelude

variable {d : Deserializer}

/-- The widths of the fields in front of the entries. -/
def preludeWidths : List ℕ := MessageHeaderImpl.widths ++ [1, 3, 4]

/-- The fields in front of the entries. -/
lemma sequential_deserializePrelude :
    Sequential preludeWidths MessageImpl.deserializePrelude :=
  MessageHeaderImpl.sequential_deserialize.bind fun _ => sequential_deserialize8.bind fun _ =>
    sequential_deserialize24.bind fun _ => sequential_deserialize32.bind fun _ => Sequential.pure _

/-- The fields in front of the entries, with the length of the entries array. -/
lemma deserializePrelude_eq (hr : 24 ≤ d.remaining) :
    ∃ m, MessageImpl.deserializePrelude d =
      (some (m, bytesToLong (d.byteAt (d.position + 20)) (d.byteAt (d.position + 20 + 1))
        (d.byteAt (d.position + 20 + 2)) (d.byteAt (d.position + 20 + 3))), d.advance 24) := by
  obtain ⟨header, e₁⟩ := MessageHeaderImpl.sequential_deserialize.eq_some (d := d)
    (by change 16 ≤ d.remaining; omega)
  change _ = (_, d.advance 16) at e₁
  have e₂ := deserialize8_advance (d := d) (n := 16) (by omega)
  obtain ⟨reserved, e₃⟩ := sequential_deserialize24.eq_some (d := d.advance 17)
    (by change 3 ≤ d.remaining - 17; omega)
  change _ = (_, (d.advance 17).advance 3) at e₃
  rw [advance_advance] at e₃
  have e₄ := deserialize32_advance (d := d) (n := 20) (by omega)
  refine ⟨{ MessageImpl.init with header, flags := d.byteAt (d.position + 16) }, ?_⟩
  rw [MessageImpl.deserializePrelude, Parse.bind_of_some e₁, Parse.bind_of_some e₂,
    Parse.bind_of_some e₃, Parse.bind_of_some e₄, Parse.pure_apply]

/-- The entries of a message with a complete prelude. -/
lemma deserializeEntries_of_some {d' : Deserializer} {m : MessageImpl} {entriesLength : UInt32}
    (h : MessageImpl.deserializePrelude d = (some (m, entriesLength), d')) :
    MessageImpl.deserializeEntries d =
      (some (MessageImpl.entriesLoop entriesLength.toNat m
          (d'.setRemaining entriesLength.toNat)).1,
        (MessageImpl.entriesLoop entriesLength.toNat m
          (d'.setRemaining entriesLength.toNat)).2.setRemaining
            (UInt32.ofNat d'.remaining - entriesLength).toNat) := by
  rw [MessageImpl.deserializeEntries, Parse.bind_of_some (Parse.attempt_of_some h), Parse.get_bind,
    Parse.modify_bind, Parse.attempt_bind, Parse.modify_bind]
  rfl

/-- A message without a complete prelude has no entries. -/
lemma deserializeEntries_of_none {d' : Deserializer}
    (h : MessageImpl.deserializePrelude d = (none, d')) :
    ∃ r, MessageImpl.deserializeEntries d = (some none, d'.setRemaining r) := by
  rw [MessageImpl.deserializeEntries, Parse.attempt_bind, h, Parse.get_bind, Parse.modify_bind,
    Parse.attempt_bind, Parse.modify_bind]
  exact ⟨_, rfl⟩

end Prelude

section Rest

variable {d : Deserializer}

/-- The options part of a message with something behind the entries: the length of the options
array bounds what remains, and the loop over the options succeeds in any case. -/
lemma deserializeOptions_eq (m : Option MessageImpl) (h : 0 < d.remaining)
    {length : Option UInt32} {d₁ d₂ : Deserializer} {options : List SdOption}
    (hl : (if m.isSome then deserialize32 false else Parse.fail) d = (length, d₁))
    (ho : MessageImpl.optionsLoop (min d₁.remaining (length.getD 0).toNat) []
        (d₁.setRemaining (min d₁.remaining (length.getD 0).toNat)) = (some options, d₂)) :
    MessageImpl.deserializeOptions m d = (match m, length with
      | some m, some optionsLength => some { m with optionsLength, options }
      | _, _ => none, d₂) := by
  have hmin : (if d₁.remaining > (length.getD 0).toNat then d₁.setRemaining (length.getD 0).toNat
      else d₁) = d₁.setRemaining (min d₁.remaining (length.getD 0).toNat) := by
    split_ifs with hgt
    · rw [Nat.min_eq_right (by omega)]
    · rw [Nat.min_eq_left (by omega)]
      rfl
  rw [MessageImpl.deserializeOptions.eq_def, Parse.get_bind, if_neg (by omega),
    Parse.attempt_bind, hl, Parse.modify_bind, Parse.get_bind]
  dsimp only
  rw [hmin, remaining_setRemaining, Parse.bind_of_some ho]
  cases m <;> cases length <;> rfl

/-- The state behind the options, and when they can be read. -/
lemma deserializeOptions_of_pos (m : Option MessageImpl) (h : 0 < d.remaining)
    {length : Option UInt32} {d₁ : Deserializer}
    (hl : (if m.isSome then deserialize32 false else Parse.fail) d = (length, d₁)) :
    (MessageImpl.deserializeOptions m d).2 =
      (MessageImpl.optionsLoop (min d₁.remaining (length.getD 0).toNat) []
        (d₁.setRemaining (min d₁.remaining (length.getD 0).toNat))).2 ∧
    ((MessageImpl.deserializeOptions m d).1.isSome ↔ m.isSome ∧ length.isSome) := by
  obtain ⟨options, d₂, ho⟩ := optionsLoop_eq_some (min d₁.remaining (length.getD 0).toNat) []
    (d₁.setRemaining (min d₁.remaining (length.getD 0).toNat))
  rw [deserializeOptions_eq m h hl ho, ho]
  cases m <;> cases length <;> exact ⟨rfl, by simp⟩

/-- After a failure nothing more is read. -/
lemma deserializeOptions_none (d : Deserializer) :
    (MessageImpl.deserializeOptions none d).1 = none ∧
      ((MessageImpl.deserializeOptions none d).2.InBounds ↔ d.InBounds) := by
  rcases Nat.eq_zero_or_pos d.remaining with h | h
  · rw [MessageImpl.deserializeOptions, Parse.get_bind, if_pos h]
    exact ⟨rfl, Iff.rfl⟩
  · obtain ⟨h2, h1⟩ := @deserializeOptions_of_pos d none h none d rfl
    refine ⟨by simpa using h1, ?_⟩
    rw [h2, optionsLoop_of_remaining_eq_zero (by simp)]
    rfl

/-- The options never make a message fail, but for the length of their array. -/
lemma isSome_deserializeOptions_iff (m : MessageImpl) (d : Deserializer) :
    (MessageImpl.deserializeOptions (some m) d).1.isSome ↔ d.remaining = 0 ∨ 4 ≤ d.remaining := by
  rcases Nat.eq_zero_or_pos d.remaining with h | h
  · rw [MessageImpl.deserializeOptions, Parse.get_bind, if_pos h]
    exact iff_of_true rfl (.inl h)
  · have hlength : (deserialize32 false d).1.isSome ↔ 4 ≤ d.remaining := by
      by_cases h4 : 4 ≤ d.remaining
      · have e := deserialize32_advance (d := d) (n := 0) (by omega)
        rw [advance_zero] at e
        rw [e]
        exact iff_of_true rfl h4
      · rw [deserialize32, if_pos (by simp; omega)]
        exact iff_of_false (by simp) h4
    have hread : (if (some m).isSome then deserialize32 false else Parse.fail) d =
        ((deserialize32 false d).1, (deserialize32 false d).2) := rfl
    rw [(deserializeOptions_of_pos (some m) h hread).2, hlength]
    exact ⟨fun h' => .inr h'.2, fun h' => ⟨rfl, h'.resolve_left (Nat.pos_iff_ne_zero.mp h)⟩⟩

/-- After the entries of a message the reads stay inside the data exactly if the options do. -/
lemma inBounds_deserializeOptions_iff (m : MessageImpl) (hs : d.Safe) (h2 : 2 < d.data.length) :
    (MessageImpl.deserializeOptions (some m) d).2.InBounds ↔
      (4 ≤ d.remaining → OptionsInside d.data
        (d.position + 4 + min (longAt d.data d.position).toNat (d.remaining - 4))
        (d.position + 4)) := by
  have hroom := hs.room
  rcases Nat.eq_zero_or_pos d.remaining with h | h
  · rw [MessageImpl.deserializeOptions, Parse.get_bind, if_pos h]
    exact iff_of_true hs.inBounds fun h' => by omega
  by_cases h4 : 4 ≤ d.remaining
  · have hl : deserialize32 false d = (some (longAt d.data d.position), d.advance 4) := by
      have e := deserialize32_advance (d := d) (n := 0) (by omega)
      rw [advance_zero] at e
      rw [e, longAt]
      simp only [Nat.add_zero, Nat.zero_add]
      rw [byteAt_of_lt (show d.position < _ by omega),
        byteAt_of_lt (show d.position + 1 < _ by omega),
        byteAt_of_lt (show d.position + 2 < _ by omega),
        byteAt_of_lt (show d.position + 3 < _ by omega)]
    rw [(deserializeOptions_of_pos (some m) h hl).1]
    have hsafe : ((d.advance 4).setRemaining (min (d.advance 4).remaining
        (longAt d.data d.position).toNat)).Safe :=
      (advanceStable_safe.advance d 4 h4 hs).setRemaining (Nat.min_le_left _ _)
    rw [Option.getD_some, inBounds_optionsLoop_iff
      (min (d.advance 4).remaining (longAt d.data d.position).toNat) [] _ hsafe le_rfl h2]
    simp only [data_setRemaining, data_advance, position_setRemaining, position_advance,
      remaining_setRemaining, remaining_advance, h4, true_imp_iff]
    rw [Nat.min_comm]
  · have hl : deserialize32 false d = (none, d) := by
      rw [deserialize32, if_pos (by simp; omega)]
    rw [(deserializeOptions_of_pos (some m) h hl).1, optionsLoop_of_remaining_eq_zero (by simp)]
    exact iff_of_true hs.inBounds fun h' => absurd h' h4

/-- A read outside the data in the entries stays on record. -/
lemma not_inBounds_deserializeOptions (m : Option MessageImpl) (h : ¬ d.InBounds) :
    ¬ (MessageImpl.deserializeOptions m d).2.InBounds := by
  rcases Nat.eq_zero_or_pos d.remaining with hz | hz
  · rw [MessageImpl.deserializeOptions.eq_def, Parse.get_bind, if_pos hz]
    cases m <;> exact h
  · have hd₁ : ¬ ((if m.isSome then deserialize32 false else Parse.fail) d).2.InBounds := by
      split_ifs
      · exact keeps_deserialize32 advanceStable_not_inBounds false d h
      · exact h
    rw [(deserializeOptions_of_pos m hz rfl).1]
    exact optionsLoop_keeps_not_inBounds _ _ _ hd₁

end Rest

section Sd

variable {data : List UInt8} {stray : ℕ → UInt8}

/-- Without the fields in front of the entries, the reads stay inside. -/
lemma inBounds_deserializeSdMessage_of_lt (hn : ¬ 24 ≤ data.length) :
    (deserializeSdMessage data stray).2.InBounds := by
  change (MessageImpl.deserialize (Deserializer.setData data stray)).2.InBounds
  have hprelude := sequential_deserializePrelude.eq_none
    (show ¬ preludeWidths.sum ≤ (Deserializer.setData data stray).remaining from hn)
  obtain ⟨r, hr⟩ := deserializeEntries_of_none hprelude
  rw [MessageImpl.deserialize, Parse.bind_of_some hr]
  exact (deserializeOptions_none _).2.mpr (advanceStable_safe.advance _ _
    (consumed_le preludeWidths data.length) (safe_setData data stray)).inBounds

/-- With them, the loop over the entries runs on the entries array and `deserializeOptions` on what
follows it. -/
lemma deserializeSdMessage_eq (hn : 24 ≤ data.length) :
    ∃ (m : Option MessageImpl) (d : Deserializer),
      deserializeSdMessage data stray =
        MessageImpl.deserializeOptions m (d.setRemaining (restLength data)) ∧
      d.data = data ∧ (m.isSome → d.position = 24 + entriesLengthField data) ∧
      (d.InBounds ↔ EntriesInside data 24 (entriesLengthField data)) ∧
      (EntriesInside data 24 (entriesLengthField data) →
        (m.isSome ↔ EntriesAccepted data 24 (entriesLengthField data))) := by
  set d := Deserializer.setData data stray
  have hbyte (p : ℕ) (hp : p < 24) : d.byteAt (d.position + p) = data.getD p 0 := by
    rw [show d.position + p = p from Nat.zero_add p]
    exact byteAt_of_lt (show p < d.data.length from lt_of_lt_of_le hp hn)
  obtain ⟨m, hm⟩ := deserializePrelude_eq (d := d) hn
  have hlength : bytesToLong (d.byteAt (d.position + 20)) (d.byteAt (d.position + 20 + 1))
      (d.byteAt (d.position + 20 + 2)) (d.byteAt (d.position + 20 + 3)) = longAt data 20 := by
    rw [longAt, ← hbyte 20 (by omega), ← hbyte 21 (by omega), ← hbyte 22 (by omega),
      ← hbyte 23 (by omega)]
  rw [hlength] at hm
  have hsafe := advanceStable_safe.advance d 24 hn (safe_setData data stray)
  have hentries := entriesRun_entriesLoop (entriesLengthField data) m
    ((d.advance 24).setRemaining (entriesLengthField data)) hsafe.inBounds
    (show 0 < data.length by omega) le_rfl
  have hcursor := entriesLoop_cursor (entriesLengthField data) m
    ((d.advance 24).setRemaining (entriesLengthField data)) (show 0 < data.length by omega) le_rfl
  refine ⟨_, _, ?_, hcursor.1, hcursor.2, hentries.inBounds_iff, hentries.isSome_iff⟩
  change MessageImpl.deserialize d = _
  rw [MessageImpl.deserialize, Parse.bind_of_some (deserializeEntries_of_some hm)]
  rfl

/-- What is expected behind the entries is there, if the entries are. -/
lemma restLength_le (h : 24 + entriesLengthField data ≤ data.length) :
    restLength data ≤ data.length - 24 - entriesLengthField data := by
  have hlt := (longAt data 20).toNat_lt
  rw [entriesLengthField] at h ⊢
  rw [restLength, UInt32.toNat_sub, UInt32.toNat_ofNat']
  omega

/-- The reads of `deserialize_sd_message` stay inside the received bytes exactly if the arrays of
the message do, and then it succeeds exactly if the entries are read.

**Proof sketch.** The fields in front of the entries are read with checked reads. The loop over
the entries does what `entriesRun_entriesLoop` says; if it succeeds, the cursor is behind the array
and safe again, and `inBounds_deserializeOptions_iff` takes over. If it fails, nothing more is
read. -/
lemma deserializeSdMessage_run (hn : 24 ≤ data.length) :
    ((deserializeSdMessage data stray).2.InBounds ↔ LengthsInside data) ∧
      (LengthsInside data → ((deserializeSdMessage data stray).1.isSome ↔ EntriesRead data)) := by
  obtain ⟨m, d, hrun, hdata, hpos, hiff, hsome⟩ := @deserializeSdMessage_eq data stray hn
  rw [hrun, LengthsInside, forall_prop_of_true hn]
  by_cases hin : EntriesInside data 24 (entriesLengthField data)
  swap
  · exact ⟨iff_of_false (not_inBounds_deserializeOptions m fun h => hin (hiff.mp h))
      fun h => hin h.1, fun h => absurd h.1 hin⟩
  cases m with
  | none =>
    have hnot : ¬ EntriesAccepted data 24 (entriesLengthField data) := by simpa using hsome hin
    obtain ⟨h1, h2⟩ := deserializeOptions_none (d.setRemaining (restLength data))
    refine ⟨iff_of_true (h2.mpr (hiff.mpr hin)) ⟨hin, fun h => absurd h hnot⟩, fun _ => ?_⟩
    rw [h1]
    exact iff_of_false (by simp) fun h => hnot h.accepted
  | some m =>
    have hacc := (hsome hin).mp rfl
    have hend := hin.le_of_accepted hacc hn
    have hrest := restLength_le hend
    have hsafe : (d.setRemaining (restLength data)).Safe := by
      refine ⟨hiff.mpr hin, ?_⟩
      simp only [position_setRemaining, remaining_setRemaining, data_setRemaining, hpos rfl, hdata]
      omega
    have hopt := inBounds_deserializeOptions_iff m hsafe (by rw [data_setRemaining, hdata]; omega)
    simp only [position_setRemaining, remaining_setRemaining, data_setRemaining, hpos rfl, hdata,
      Nat.add_right_comm 24 _ 4] at hopt
    refine ⟨hopt.trans ⟨fun h => ⟨hin, fun _ => h⟩, fun h => h.2 hacc⟩, fun _ => ?_⟩
    rw [isSome_deserializeOptions_iff, remaining_setRemaining]
    exact ⟨fun h => ⟨hn, hacc, h⟩, EntriesRead.rest⟩

end Sd

/-- The parser reads received bytes only, and refuses a message with a length that is not well formed. -/
def ParsesInside (data : List UInt8) (stray : ℕ → UInt8) : Prop :=
  (deserializeSdMessage data stray).2.InBounds ∧
    (24 ≤ data.length → ¬ LengthsWellFormed data → (deserializeSdMessage data stray).1 = none)

/-- Entries that stay inside the data and are read have a length that is well formed. -/
lemma EntriesRead.lengthsWellFormed {data : List UInt8} (h : EntriesRead data)
    (hinside : LengthsInside data) (hoptions : OptionsWellFormed data) : LengthsWellFormed data where
  entries := by
    have hend := (hinside h.prelude).1.le_of_accepted h.accepted h.prelude
    omega
  whole := h.accepted.1
  options := hoptions

/-- The parser stays inside the received bytes and refuses lengths that are not well formed exactly if
the arrays of the message stay inside it, and its options are well formed or its entries are not read,
whatever stands in the memory behind the bytes.

**Proof sketch.** If the arrays stay inside, the parser succeeds exactly if the entries are read, and
then the length of the entries array is right; the lengths of the options have no say in it. -/
theorem parsesInside_iff (data : List UInt8) (stray : ℕ → UInt8) :
    ParsesInside data stray ↔
      LengthsInside data ∧ (EntriesRead data → OptionsWellFormed data) := by
  by_cases hn : 24 ≤ data.length
  swap
  · exact iff_of_true ⟨inBounds_deserializeSdMessage_of_lt hn, fun h => absurd h hn⟩
      ⟨fun h => absurd h hn, fun h => absurd h.prelude hn⟩
  obtain ⟨hreads, hsome⟩ := @deserializeSdMessage_run data stray hn
  constructor
  · rintro ⟨hin, hrefused⟩
    have hinside := hreads.mp hin
    refine ⟨hinside, fun hread => by_contra fun hoptions => ?_⟩
    have hnone := hrefused hn fun h => hoptions h.options
    have hfine := (hsome hinside).mpr hread
    rw [hnone] at hfine
    cases hfine
  · rintro ⟨hinside, hoptions⟩
    refine ⟨hreads.mpr hinside, fun _ hmalformed => Option.not_isSome_iff_eq_none.mp fun hfine => ?_⟩
    have hread := (hsome hinside).mp hfine
    exact hmalformed (hread.lengthsWellFormed hinside (hoptions hread))

/-- A message of 24 bytes whose entries length announces an entry that is not there. -/
def announcedEntry : List UInt8 :=
  [0xFF, 0xFF, 0x81, 0x00, 0x00, 0x00, 0x00, 0x10, 0x00, 0x00, 0x00, 0x01, 0x01, 0x01, 0x02, 0x00,
    0x80, 0x00, 0x00, 0x00, 0x00, 0x00, 0x00, 0x10]

/-- A message of 28 bytes whose options length announces 100 bytes that are not there. -/
def announcedOptions : List UInt8 :=
  [0xFF, 0xFF, 0x81, 0x00, 0x00, 0x00, 0x00, 0x14, 0x00, 0x00, 0x00, 0x01, 0x01, 0x01, 0x02, 0x00,
    0x80, 0x00, 0x00, 0x00, 0x00, 0x00, 0x00, 0x00, 0x00, 0x00, 0x00, 0x64]

/-- The parser reads the type of the announced entry behind the end of the message, and accepts the
announced options. -/
theorem not_parsesInside_announcedEntry :
    ¬ ParsesInside announcedEntry (fun _ => 0) ∧ ¬ ParsesInside announcedOptions (fun _ => 0) := by
  refine ⟨fun h => absurd (h.1 24 (by decide)) (by decide), fun h => ?_⟩
  have hlong : ¬ LengthsWellFormed announcedOptions :=
    fun hwell => absurd (hwell.options (by decide)).1 (by decide)
  exact absurd (h.2 (by decide) hlong) (by decide)

end Vsomeip.Sd
