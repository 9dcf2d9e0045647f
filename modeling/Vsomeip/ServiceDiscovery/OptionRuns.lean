import Mathlib.Data.List.Perm.Subperm
import Vsomeip.Lib.Runs
import Vsomeip.ServiceDiscovery.EntryCodec

set_option relaxedAutoImplicit false
set_option autoImplicit false

/-!
# The option runs of an entry

`assign_option` puts the index of an option into one of the two runs of an entry, and refuses an index
that would need a third one. On the wire the number of indices of a run has four bits, but nothing
refuses a sixteenth index: its run is read back without sixteen of its indices. As long as no index is
joined to a run that has fifteen, what is read back are the stored indices.

## Main definitions

* `Vsomeip.Sd.getOptionIndex` — `message_impl::get_option_index`.
* `Vsomeip.Sd.EntryImpl.assignOptionOf` — `assign_option`, with the option of a message.
* `Vsomeip.Sd.EntryImpl.RoundTrips` — serializing and deserializing gives the stored indices.
* `Vsomeip.Sd.EntryImpl.Representable` — a run of the wire format has room for an index.
* `Vsomeip.Sd.EntryImpl.HasRoom` — the run that an index is joined to has fewer than fifteen.

## Main results

* `Vsomeip.Sd.EntryImpl.short_run_iff` — the runs stay short exactly if no index is joined to a full
  one.
* `Vsomeip.Sd.EntryImpl.assigned_roundTrips_iff` — exactly then the stored indices are read back and nothing is
  stored that the wire format cannot represent.
-/

namespace Vsomeip.Sd

open Deserializer Serializer

section Index

variable {Ptr : Type} [DecidableEq Ptr]

/-- `message_impl::get_option_index`: options are compared as pointers. The loop runs up to the number
of options as an `int16_t`; an option that is not found has index -1. -/
def getOptionIndex (options : List Ptr) (option : Ptr) : ℤ :=
  match (options.take (Int16.ofNat options.length).toNatClampNeg).idxOf? option with
  | some i => i
  | none => -1

/-- The index as `assign_option` converts it. -/
def optionIndex (options : List Ptr) (option : Ptr) : UInt8 :=
  UInt8.ofInt (getOptionIndex options option)

/-- `entry_impl::assign_option` with an option of the owning message. -/
def EntryImpl.assignOptionOf (options : List Ptr) (e : EntryImpl) (option : Ptr) : EntryImpl :=
  e.assignOption (optionIndex options option)

end Index

namespace EntryImpl

/-- What `deserialize` makes of the bytes that `serialize` writes. -/
def reread (stray : ℕ → UInt8) (e : EntryImpl) : Option EntryImpl :=
  (EntryImpl.deserialize (Deserializer.setData (e.serialize []).2 stray)).1

/-- Serializing the entry and deserializing it gives the indices stored in the two runs, each once. -/
def RoundTrips (stray : ℕ → UInt8) (e : EntryImpl) : Prop :=
  (e.serialize []).1 = some () ∧ ∃ e', e.reread stray = some e' ∧
    e'.options1 = e.options1 ∧ e'.options2 = e.options2 ∧ (e'.options1 ++ e'.options2).Nodup

/-- The wire format can represent the entry with the index in one of its runs: together they are an
interval of at most 15 indices. -/
def Representable (e : EntryImpl) (index : UInt8) : Prop :=
  ∃ run, IsRun run ∧ run.length ≤ 15 ∧
    (run.Perm (index :: e.options1) ∨ run.Perm (index :: e.options2))

/-- The run that the index is joined to, if there is one, has fewer than 15 indices. -/
def HasRoom (e : EntryImpl) (index : UInt8) : Prop :=
  if canJoin e.options1 index then e.options1.length < 15
  else canJoin e.options2 index → e.options2.length < 15

/-- Both runs have at most 15 indices. -/
def Short (e : EntryImpl) : Prop := e.options1.length ≤ 15 ∧ e.options2.length ≤ 15

/-- The indices stored in the two runs. -/
def stored (e : EntryImpl) : List UInt8 := e.options1 ++ e.options2

/-! ## One assignment -/

section Assign

variable {e : EntryImpl} {i : UInt8}

/-- What an assignment can do. -/
lemma assignOption_cases (e : EntryImpl) (i : UInt8) :
    (canJoin e.options1 i ∧ (e.assignOption i).options1.Perm (i :: e.options1) ∧
      (e.assignOption i).options2 = e.options2) ∨
    (¬ canJoin e.options1 i ∧ canJoin e.options2 i ∧ (e.assignOption i).options1 = e.options1 ∧
      (e.assignOption i).options2.Perm (i :: e.options2)) ∨
    (¬ canJoin e.options1 i ∧ ¬ canJoin e.options2 i ∧ e.assignOption i = e) := by
  have hsort (run : List UInt8) :
      ((run ++ [i]).mergeSort (fun a b => decide (a ≤ b))).Perm (i :: run) :=
    (List.mergeSort_perm _ _).trans (List.perm_append_singleton i run)
  unfold assignOption
  split_ifs with h1 h2
  · exact Or.inl ⟨h1, hsort _, rfl⟩
  · exact Or.inr (Or.inl ⟨h1, h2, rfl, hsort _⟩)
  · exact Or.inr (Or.inr ⟨h1, h2, rfl⟩)

/-- An index is joined to a run that has room. -/
lemma Short.assignOption (h : e.Short) (hroom : e.HasRoom i) : (e.assignOption i).Short := by
  obtain ⟨h1, h2⟩ := h
  rcases assignOption_cases e i with ⟨hjoin, hperm, heq⟩ | ⟨hnot, hjoin, heq, hperm⟩ | ⟨-, -, heq⟩
  · rw [HasRoom, if_pos hjoin] at hroom
    exact ⟨by rw [hperm.length_eq, List.length_cons]; omega, by rwa [heq]⟩
  · rw [HasRoom, if_neg hnot] at hroom
    have hlt := hroom hjoin
    exact ⟨by rwa [heq], by rw [hperm.length_eq, List.length_cons]; omega⟩
  · rw [heq]
    exact ⟨h1, h2⟩

/-- An index that is joined to a run without room makes it too long. -/
lemma not_short_assignOption (hroom : ¬ e.HasRoom i) : ¬ (e.assignOption i).Short := by
  rintro ⟨hs1, hs2⟩
  apply hroom
  rcases assignOption_cases e i with ⟨hjoin, hperm, -⟩ | ⟨hnot, -, -, hperm⟩ | ⟨hnot1, hnot2, -⟩
  · rw [hperm.length_eq, List.length_cons] at hs1
    rw [HasRoom, if_pos hjoin]
    omega
  · rw [hperm.length_eq, List.length_cons] at hs2
    rw [HasRoom, if_neg hnot]
    omega
  · rw [HasRoom, if_neg hnot1]
    exact fun hjoin => absurd hjoin hnot2

/-- Runs do not get shorter. -/
lemma Short.of_assignOption (h : (e.assignOption i).Short) : e.Short := by
  obtain ⟨hs1, hs2⟩ := h
  rcases assignOption_cases e i with ⟨-, hperm, heq⟩ | ⟨-, -, heq, hperm⟩ | ⟨-, -, heq⟩
  · rw [hperm.length_eq, List.length_cons] at hs1
    exact ⟨by omega, by rwa [heq] at hs2⟩
  · rw [hperm.length_eq, List.length_cons] at hs2
    exact ⟨by rwa [heq] at hs1, by omega⟩
  · rw [heq] at hs1 hs2
    exact ⟨hs1, hs2⟩

/-- At most the index is stored in addition. -/
lemma stored_assignOption (e : EntryImpl) (i : UInt8) :
    (e.assignOption i).stored.Subperm (e.stored ++ [i]) := by
  have hlast : (i :: e.stored).Perm (e.stored ++ [i]) := (List.perm_append_singleton i _).symm
  rcases assignOption_cases e i with ⟨-, hperm, heq⟩ | ⟨-, -, heq, hperm⟩ | ⟨-, -, heq⟩
  · have hstored : (e.assignOption i).stored.Perm (i :: e.stored) := by
      rw [stored, heq]
      exact hperm.append_right e.options2
    exact (hstored.trans hlast).subperm
  · have hstored : (e.assignOption i).stored.Perm (i :: e.stored) := by
      rw [stored, heq]
      exact (hperm.append_left e.options1).trans List.perm_middle
    exact (hstored.trans hlast).subperm
  · rw [heq]
    exact (List.sublist_append_left e.stored [i]).subperm

/-- With room, an index that the wire format cannot represent is not stored. -/
lemma assignOption_eq_of_not_representable (he : e.Assigned) (hshort : e.Short) (hroom : e.HasRoom i)
    (h : ¬ e.Representable i) : e.assignOption i = e := by
  have hrun := (Assigned.assignOption e i he).isRun
  obtain ⟨hs1, hs2⟩ := hshort.assignOption hroom
  rcases assignOption_cases e i with ⟨-, hperm, -⟩ | ⟨-, -, -, hperm⟩ | ⟨-, -, heq⟩
  · exact absurd ⟨_, hrun.1, hs1, Or.inl hperm⟩ h
  · exact absurd ⟨_, hrun.2, hs2, Or.inr hperm⟩ h
  · exact heq

end Assign

/-! ## Reading back -/

/-- The bytes of an entry are written and read back. -/
lemma reread_eq (stray : ℕ → UInt8) (e : EntryImpl) :
    (e.serialize []).1 = some () ∧ e.reread stray = some e.readBack := by
  have hwrite : e.serialize [] = (some (), e.bytes) := e.writes_serialize []
  obtain ⟨d', hread, -⟩ := e.decodes_deserialize (Deserializer.setData e.bytes stray) []
    (by rw [List.append_nil]; rfl) (Nat.le_refl _)
  refine ⟨by rw [hwrite], ?_⟩
  rw [reread, hwrite, hread]

/-- A run that is read back has as many indices as four bits can count. -/
lemma length_readBack_le (e : EntryImpl) :
    e.readBack.options1.length ≤ 15 ∧ e.readBack.options2.length ≤ 15 := by
  have hlength (index num : UInt8) : (readRun index num).length = num.toNat := by
    rw [readRun, List.length_map, List.length_range']
  constructor
  · have hlt := e.numberOfOptions.toNat_lt
    rw [readBack, hlength, UInt8.toNat_shiftRight, Nat.shiftRight_eq_div_pow]
    change e.numberOfOptions.toNat / 2 ^ 4 ≤ 15
    omega
  · rw [readBack, hlength, UInt8.toNat_and]
    exact Nat.and_le_right

/-- Entries with two runs of different indices make the round trip exactly if the runs are short. -/
lemma roundTrips_iff_short (stray : ℕ → UInt8) {e : EntryImpl} (he : e.Assigned)
    (hnodup : e.stored.Nodup) : e.RoundTrips stray ↔ e.Short := by
  obtain ⟨hwrite, hread⟩ := reread_eq stray e
  constructor
  · rintro ⟨-, e', he', h1, h2, -⟩
    obtain rfl : e.readBack = e' := Option.some.inj (hread.symm.trans he')
    obtain ⟨hle1, hle2⟩ := e.length_readBack_le
    exact ⟨h1 ▸ hle1, h2 ▸ hle2⟩
  · rintro ⟨hs1, hs2⟩
    have hback := readBack_eq he.isRun.1 he.isRun.2 hs1 hs2
    refine ⟨hwrite, e.readBack, hread, ?_, ?_, ?_⟩
    all_goals rw [hback]
    · rfl
    · rfl
    · exact hnodup

/-! ## All assignments -/

section Run

variable {Ptr : Type} [DecidableEq Ptr] {options : List Ptr}

/-- The index of an option of a small message is its position. -/
lemma optionIndex_of_mem (hlen : options.length ≤ 255) {o : Ptr} (ho : o ∈ options) :
    (optionIndex options o).toNat = options.idxOf o := by
  have hlt : options.idxOf o < options.length := List.idxOf_lt_length_of_mem ho
  have htake : options.take (Int16.ofNat options.length).toNatClampNeg = options := by
    rw [Int16.toNatClampNeg_ofNat_of_lt (by omega), List.take_length]
  have hindex : getOptionIndex options o = (options.idxOf o : ℤ) := by
    rw [getOptionIndex, htake, idxOf?_of_mem ho]
  rw [optionIndex, hindex, UInt8.ofInt, UInt8.toNat_ofNat']
  omega

/-- Different options have different indices. -/
lemma nodup_map_optionIndex (hlen : options.length ≤ 255) {assigned : List Ptr}
    (hnodup : assigned.Nodup) (hmem : ∀ o ∈ assigned, o ∈ options) :
    (assigned.map (optionIndex options)).Nodup := by
  refine hnodup.map_on fun o ho o' ho' heq => ?_
  have hidx := congrArg UInt8.toNat heq
  rw [optionIndex_of_mem hlen (hmem o ho), optionIndex_of_mem hlen (hmem o' ho')] at hidx
  exact (List.idxOf_inj (hmem o ho)).mp hidx

/-- Only indices of assigned options are stored, each as often as it is assigned. -/
lemma stored_run (options : List Ptr) : ∀ (assigned : List Ptr) (e : EntryImpl),
    (Runs.run (assignOptionOf options) e assigned).stored.Subperm
      (e.stored ++ assigned.map (optionIndex options))
  | [], e => by rw [List.map_nil, List.append_nil]; exact List.Subperm.refl _
  | o :: assigned, e => by
    have hstep := stored_assignOption e (optionIndex options o)
    have ih := stored_run options assigned (e.assignOptionOf options o)
    have happ := ih.trans ((List.subperm_append_right _).mpr hstep)
    rwa [List.append_assoc] at happ

/-- The runs of an entry stay short exactly if no index is joined to a run that has no room. -/
lemma short_run_iff (options : List Ptr) {e : EntryImpl} (h : e.Short) (assigned : List Ptr) :
    (Runs.run (assignOptionOf options) e assigned).Short ↔
      Runs.Along (assignOptionOf options) (fun e o => e.HasRoom (optionIndex options o)) e assigned :=
  Runs.run_iff_along (I := Short) (fun hs hroom => hs.assignOption hroom) not_short_assignOption
    (mt Short.of_assignOption) h

/-- An index right behind an interval can be joined to it. -/
lemma canJoin_of_next {n : ℕ} (hn : n < 256) :
    canJoin ((List.range' 0 n).map UInt8.ofNat) (UInt8.ofNat n) = true := by
  cases n with
  | zero => rfl
  | succ n =>
    have hlast (hne : (List.range' 0 (n + 1)).map UInt8.ofNat ≠ []) :
        ((List.range' 0 (n + 1)).map UInt8.ofNat).getLast hne = UInt8.ofNat n := by
      simp [List.range'_1_concat]
    rw [List.range'_succ, List.map_cons] at hlast ⊢
    rw [canJoin, hlast, Bool.or_eq_true, beq_iff_eq, beq_iff_eq]
    simp only [UInt8.toNat_ofNat']
    right
    omega

/-- Options that are assigned in the order of the message are all stored in the first run. -/
lemma options1_run_take (hlen : options.length ≤ 255) (hnodup : options.Nodup) {e : EntryImpl}
    (he : e.options1 = []) (m : ℕ) (hm : m ≤ options.length) :
    (Runs.run (assignOptionOf options) e (options.take m)).options1 =
      (List.range' 0 m).map UInt8.ofNat := by
  induction m with
  | zero => exact he
  | succ m ih =>
    have hlt : m < options.length := by omega
    have hindex : optionIndex options options[m] = UInt8.ofNat m := by
      refine UInt8.toNat_inj.mp ?_
      rw [optionIndex_of_mem hlen (List.getElem_mem hlt), hnodup.idxOf_getElem m hlt,
        UInt8.toNat_ofNat']
      omega
    rw [List.take_succ_eq_append_getElem hlt, Runs.run_append]
    specialize ih (by omega)
    generalize Runs.run (assignOptionOf options) e (options.take m) = e' at ih ⊢
    change (e'.assignOption (optionIndex options options[m])).options1 = _
    rw [hindex, assignOption, ih, if_pos (canJoin_of_next (by omega))]
    refine mergeSort_eq_range' (by omega) ?_
    rw [List.range'_1_concat, Nat.zero_add, List.map_append, List.map_singleton]

/-- A new entry with its other members set. -/
def blank (type : EntryType) (service instance_ : UInt16) (majorVersion : UInt8) (ttl : UInt32) :
    EntryImpl :=
  { EntryImpl.init with type, service, instance_, majorVersion, ttl }

variable (type : EntryType) (service instance_ : UInt16) (majorVersion : UInt8) (ttl : UInt32)

/-- A blank entry has its options assigned. -/
lemma assigned_blank : (blank type service instance_ majorVersion ttl).Assigned :=
  Assigned.set _ type service instance_ majorVersion ttl Assigned.init

/-- **Option runs on the wire.** For a message of at most 255 options and different ones of them,
assigned to a new entry in any order: the stored indices are read back, each once, and an assignment
that the wire format cannot represent leaves the entry as it is, exactly if no index is joined to a run
that has 15.

**Proof sketch.** The stored indices are different, since those of the options are, and form two
intervals. Two intervals are read back exactly if both have at most 15 indices; a run that has more
keeps them until the end. With short runs and room in the run that an index is joined to, the runs after
an assignment are short intervals again, which the wire format can represent. -/
theorem assigned_roundTrips_iff (hlen : options.length ≤ 255) {assigned : List Ptr} (hnodup : assigned.Nodup)
    (hmem : ∀ o ∈ assigned, o ∈ options) (stray : ℕ → UInt8) :
    ((Runs.run (assignOptionOf options) (blank type service instance_ majorVersion ttl)
          assigned).RoundTrips stray ∧
        Runs.Along (assignOptionOf options)
          (fun e o => ¬ e.Representable (optionIndex options o) → e.assignOptionOf options o = e)
          (blank type service instance_ majorVersion ttl) assigned) ↔
      Runs.Along (assignOptionOf options) (fun e o => e.HasRoom (optionIndex options o))
        (blank type service instance_ majorVersion ttl) assigned := by
  have hblank := assigned_blank type service instance_ majorVersion ttl
  have hshort : (blank type service instance_ majorVersion ttl).Short := ⟨Nat.zero_le _, Nat.zero_le _⟩
  have hbare : (blank type service instance_ majorVersion ttl).stored = [] := rfl
  generalize blank type service instance_ majorVersion ttl = e at hblank hshort hbare ⊢
  have hlast : (Runs.run (assignOptionOf options) e assigned).Assigned :=
    Runs.inv_run (P := fun _ => True) (fun h _ => Assigned.assignOption _ _ h) hblank
      fun _ _ => trivial
  have hsub := stored_run options assigned e
  rw [hbare, List.nil_append] at hsub
  obtain ⟨l, hperm, hsublist⟩ := hsub
  have hdistinct := hperm.nodup_iff.mp ((nodup_map_optionIndex hlen hnodup hmem).sublist hsublist)
  rw [roundTrips_iff_short stray hlast hdistinct, short_run_iff options hshort]
  refine and_iff_left_of_imp fun hroom => ?_
  refine Runs.along_of_inv (I := fun e => e.Assigned ∧ e.Short) ?_ ⟨hblank, hshort⟩ hroom
  rintro e o ⟨he, hs⟩ hr
  exact ⟨⟨Assigned.assignOption _ _ he, hs.assignOption hr⟩,
    assignOption_eq_of_not_representable he hs hr⟩

/-- Three options of a message with four, in any order. -/
theorem assigned_roundTrips_three :
    ((Runs.run (assignOptionOf [10, 20, 30, 40]) (blank .offerService 1 1 0 3)
          [30, 10, 20]).RoundTrips (fun _ => 0) ∧
        Runs.Along (assignOptionOf [10, 20, 30, 40]) (fun e o =>
            ¬ e.Representable (optionIndex [10, 20, 30, 40] o) →
              e.assignOptionOf [10, 20, 30, 40] o = e)
          (blank .offerService 1 1 0 3) [30, 10, 20]) ↔
      Runs.Along (assignOptionOf [10, 20, 30, 40])
        (fun e o => e.HasRoom (optionIndex [10, 20, 30, 40] o))
        (blank .offerService 1 1 0 3) [30, 10, 20] :=
  assigned_roundTrips_iff .offerService 1 1 0 3 (by decide) (by decide) (by decide) _

/-- Sixteen options that are assigned in the order of the message are not read back. -/
theorem not_roundTrips_sixteen :
    ¬ (Runs.run (assignOptionOf (List.range 16)) (blank .offerService 1 1 0 3)
        (List.range 16)).RoundTrips (fun _ => 0) := by
  have hrun : (Runs.run (assignOptionOf (List.range 16)) (blank .offerService 1 1 0 3)
      (List.range 16)).options1 = (List.range' 0 16).map UInt8.ofNat :=
    options1_run_take (by decide) List.nodup_range rfl 16 (by decide)
  generalize Runs.run _ _ _ = e at hrun ⊢
  rintro ⟨-, e', hread, h1, -⟩
  obtain rfl : e.readBack = e' := Option.some.inj ((reread_eq _ e).2.symm.trans hread)
  have hle := e.length_readBack_le.1
  rw [h1, hrun, List.length_map, List.length_range'] at hle
  exact absurd hle (by decide)

end Run

end EntryImpl

end Vsomeip.Sd
