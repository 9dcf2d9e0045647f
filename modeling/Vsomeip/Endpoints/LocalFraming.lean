import Mathlib.Data.List.GetD
import Mathlib.Tactic.IntervalCases
import Vsomeip.Endpoints.Local

set_option relaxedAutoImplicit false
set_option autoImplicit false

/-!
# Framing of local commands

Which cuts of a stream of local commands the local server endpoint undoes. Once the size of a
command is there, tags inside the command do no harm: the search for the end tag starts at the last
byte of the command. But as long as the size is not there, it starts at the first byte. So a
callback that ends 8, 9 or 10 bytes into a frame hands a piece of at most two bytes to the host if
an end tag stands in these bytes. `Misleading` says so of the bytes, and no other cut goes wrong.

## Main definitions

* `Vsomeip.LocalCommand` — the commands of the stream.
* `Vsomeip.Misleading` — the beginnings of a frame that the receiver takes for a whole one.

## Main results

* `Vsomeip.round_of_frame`, `Vsomeip.round_of_part`, `Vsomeip.round_of_misleading` — what a round
  does with a whole frame, with the beginning of one, and with a misleading one.
* `Vsomeip.local_delivers_iff` — exactly the commands of the stream are delivered, in order, if and
  only if no callback ends with a misleading beginning of a frame.
-/

namespace Vsomeip

open LocalServer

/-- A command with a consistent size field that the endpoint accepts. -/
structure LocalCommand (cfg : RecvConfig) (command : List UInt8) : Prop where
  header : 7 ≤ command.length
  size : (commandSize command 0).toNat + 7 = command.length
  max : commandSize command 0 ≤ cfg.maxMessageSize

/-- A beginning of a frame without the whole size field in which an end tag stands behind the start
tag. -/
def Misleading (p : List UInt8) : Prop :=
  8 ≤ p.length ∧ p.length ≤ 10 ∧ ∃ j, j + 8 ≤ p.length ∧ tagAt p endTag (4 + j)

/-! ## Looking for a tag -/

section Scan

variable {buffer tag : List UInt8} {limit : ℕ}

/-- The search ends at the first offset at which it has to. -/
lemma scan_eq : ∀ {fuel pos n : ℕ}, pos ≤ n → n - pos ≤ fuel →
    (∀ k, pos ≤ k → k < n → k + 3 < limit ∧ ¬ tagAt buffer tag k) →
    ¬ (n + 3 < limit ∧ ¬ tagAt buffer tag n) → scan buffer tag limit fuel pos = n
  | 0, pos, n, hle, hfuel, _, _ => by
    rw [scan]
    omega
  | fuel + 1, pos, n, hle, hfuel, hall, hstop => by
    rw [scan]
    rcases Nat.eq_or_lt_of_le hle with rfl | hlt
    · rw [if_neg hstop]
    · rw [if_pos (hall pos le_rfl hlt)]
      exact scan_eq (by omega) (by omega) (fun k hk => hall k (by omega)) hstop

/-- The search does not start if four bytes are not there. -/
lemma scan_of_le {fuel pos : ℕ} (h : limit ≤ pos + 3) : scan buffer tag limit fuel pos = pos :=
  scan_eq le_rfl (by omega) (fun k h1 h2 => by omega) (by omega)

/-- The search does not start on a tag. -/
lemma scan_of_tagAt {fuel pos : ℕ} (h : tagAt buffer tag pos) :
    scan buffer tag limit fuel pos = pos :=
  scan_eq le_rfl (by omega) (fun k h1 h2 => by omega) fun h' => h'.2 h

end Scan

/-- Tags in the pending bytes are tags in the buffer. -/
lemma tagAt_content {recv : RecvBuffer} {gap i : ℕ} {tag : List UInt8} (h : i + 4 ≤ recv.size) :
    tagAt recv.buffer tag (gap + i) ↔ tagAt (recv.content gap) tag i := by
  unfold tagAt RecvBuffer.content
  rw [List.drop_take, List.drop_drop, List.take_take, Nat.min_eq_left (by omega)]

/-- Pending bytes are bytes of the buffer. -/
lemma getD_content {recv : RecvBuffer} {gap i : ℕ} (h : i < recv.size) :
    recv.buffer.getD (gap + i) 0 = (recv.content gap).getD i 0 := by
  simp only [RecvBuffer.content, List.getD_eq_getElem?_getD, List.getElem?_take_of_lt h,
    List.getElem?_drop]

/-! ## The bytes of a frame -/

section Frame

variable {m p x : List UInt8}

/-- A command on the wire has eight bytes more. -/
lemma length_sendQueued (m : List UInt8) : (LocalClient.sendQueued m).length = m.length + 8 := by
  simp [LocalClient.sendQueued, startTag, endTag]

/-- A frame begins with the start tag. -/
lemma tagAt_start (hp : p <+: LocalClient.sendQueued m ++ x) (h4 : 4 ≤ p.length) :
    tagAt p startTag 0 := by
  obtain ⟨y, hy⟩ := hp
  have h := congrArg (List.take 4) hy
  rw [List.take_append_of_le_length h4] at h
  rw [tagAt, List.drop_zero, h]
  rfl

/-- The size field of a command stands in its frame. -/
lemma commandSize_eq (h7 : 7 ≤ m.length) (hp : p <+: LocalClient.sendQueued m ++ x)
    (h11 : 11 ≤ p.length) : commandSize p 4 = commandSize m 0 := by
  have hbyte (i : ℕ) (hi : i < 7) : p.getD (4 + i) 0 = m.getD (0 + i) 0 := by
    obtain ⟨y, hy⟩ := hp
    rw [← List.getD_append p y 0 _ (by omega), hy, LocalClient.sendQueued, List.append_assoc,
      List.append_assoc, List.getD_append_right _ _ _ _ (by simp [startTag]), Nat.zero_add,
      show 4 + i - startTag.length = i by simp [startTag],
      List.getD_append _ _ _ _ (by omega)]
  simp only [commandSize]
  rw [hbyte 6 (by omega), hbyte 5 (by omega), hbyte 4 (by omega), hbyte 3 (by omega)]

/-- No end tag stands on the last byte of a command: its second byte is not the first one. -/
lemma not_tagAt_last (hp : p <+: LocalClient.sendQueued m ++ x)
    (hlen : m.length + 7 ≤ p.length) : ¬ tagAt p endTag (m.length + 3) := by
  intro h
  have h1 := congrArg (fun l => l.getD 1 0) h
  have hbyte : ((p.drop (m.length + 3)).take 4).getD 1 0 = p.getD (m.length + 4) 0 := by
    simp only [List.getD_eq_getElem?_getD, List.getElem?_take_of_lt (show 1 < 4 by omega),
      List.getElem?_drop]
  have htag : p.getD (m.length + 4) 0 = 0x07 := by
    obtain ⟨y, hy⟩ := hp
    rw [← List.getD_append p y 0 _ (by omega), hy, LocalClient.sendQueued, List.append_assoc,
      List.append_assoc, List.getD_append_right _ _ _ _ (by simp [startTag]),
      List.getD_append_right _ _ _ _ (by simp [startTag]),
      show m.length + 4 - startTag.length - m.length = 0 by simp [startTag]]
    rfl
  simp only [hbyte, htag] at h1
  exact absurd h1 (by decide)

/-- The end tag stands behind the command. -/
lemma tagAt_end : tagAt (LocalClient.sendQueued m ++ x) endTag (m.length + 4) := by
  rw [tagAt, LocalClient.sendQueued, Nat.add_comm, ← List.drop_drop, List.append_assoc,
    List.append_assoc, show (4 : ℕ) = startTag.length from rfl, List.drop_left, List.drop_left]
  rfl

end Frame

/-! ## Rounds -/

section Round

variable {cfg : RecvConfig} {recv : RecvBuffer} {gap : ℕ} {m x p : List UInt8}

/-- A round on pending bytes that begin with a start tag. -/
lemma round_of_start (h4 : 4 ≤ recv.size) (h : tagAt (recv.content gap) startTag 0) :
    round cfg recv gap = roundFrom cfg recv gap (gap + 4) := by
  have htag : tagAt recv.buffer startTag gap := (tagAt_content (i := 0) (by omega)).mpr h
  rw [LocalServer.round, scan_of_tagAt htag, if_neg (by omega)]

/-- A round without an end tag. -/
lemma finish_of_le {itsStart itsEnd : ℕ} {n : UInt32} (h : recv.size + gap ≤ itsEnd + 3) :
    finish cfg recv gap itsStart n itsEnd =
      .wait (if gap ≠ 0 then (missing recv n).shift gap else missing recv n) := by
  simp only [finish]
  rw [if_neg (by omega), if_pos (Or.inl (by omega))]
  split_ifs <;> rfl

/-- A round with an end tag. -/
lemma finish_of_tagAt {itsStart itsEnd : ℕ} {n : UInt32} (h : itsEnd + 3 < recv.size + gap)
    (htag : tagAt recv.buffer endTag itsEnd) :
    ∃ recv', finish cfg recv gap itsStart n itsEnd = .found recv' (itsEnd + 4)
        ((recv.buffer.drop itsStart).take ((itsEnd - itsStart) % 2 ^ 32)) ∧
      recv'.buffer = recv.buffer ∧ recv'.size = recv.size - (itsEnd + 4 - gap) ∧
      recv'.missingCapacity = 0 := by
  simp only [finish]
  rw [if_pos h, if_neg (not_or.mpr ⟨by omega, not_not.mpr htag⟩)]
  exact ⟨_, rfl, RecvBuffer.buffer_calculateShrinkCount cfg recv, rfl, rfl⟩

/-- A round behind the start tag, when the size of the command is there. -/
lemma roundFrom_of_size (hm : LocalCommand cfg m) (hsize : recv.size = p.length)
    (hc : recv.content gap = p) (hp : p <+: LocalClient.sendQueued m ++ x)
    (h11 : 11 ≤ p.length) :
    roundFrom cfg recv gap (gap + 4) = finish cfg recv gap (gap + 4) (commandSize m 0)
      (scan recv.buffer endTag (recv.size + gap) recv.size (gap + (m.length + 3))) := by
  have hcs : commandSize recv.buffer (gap + 4) = commandSize m 0 := by
    rw [← commandSize_eq hm.header hp h11, ← hc]
    simp only [commandSize, Nat.add_assoc]
    rw [getD_content (by omega), getD_content (by omega), getD_content (by omega),
      getD_content (by omega)]
  have hmax : ¬ commandSize m 0 > cfg.maxMessageSize := by
    have := hm.max
    rw [UInt32.le_iff_toNat_le] at this
    rw [gt_iff_lt, UInt32.lt_iff_toNat_lt]
    omega
  have hlen := hm.size
  have hhas : gap + 4 + 6 < recv.size + gap := by omega
  have hend : gap + 4 + 6 + (commandSize m 0).toNat = gap + (m.length + 3) := by omega
  simp only [roundFrom, hhas, if_true, hcs, hend]
  rw [if_neg (fun h => hmax h.2.2)]

/-- A round behind the start tag, when the size of the command is not there. -/
lemma roundFrom_of_lt (h11 : recv.size < 11) :
    roundFrom cfg recv gap (gap + 4) = finish cfg recv gap (gap + 4) 0
      (scan recv.buffer endTag (recv.size + gap) recv.size (gap + 4)) := by
  have hhas : ¬ gap + 4 + 6 < recv.size + gap := by omega
  simp only [roundFrom, hhas, if_false]
  rw [if_neg (by simp)]

/-- A round on a whole frame hands its command to the host. -/
lemma round_of_frame (hm : LocalCommand cfg m) (hword : recv.size < 2 ^ 32)
    (hsize : recv.size = (LocalClient.sendQueued m ++ x).length)
    (hc : recv.content gap = LocalClient.sendQueued m ++ x) :
    ∃ recv', round cfg recv gap = .found recv' (gap + (m.length + 8)) m ∧
      recv'.buffer = recv.buffer ∧ recv'.size = x.length ∧ recv'.missingCapacity = 0 := by
  have h7 := hm.header
  have hlen : recv.size = m.length + 8 + x.length := by
    rw [hsize, List.length_append, length_sendQueued]
  have hp : LocalClient.sendQueued m ++ x <+: LocalClient.sendQueued m ++ x := List.prefix_refl _
  have hlast : ¬ tagAt recv.buffer endTag (gap + (m.length + 3)) := by
    rw [tagAt_content (by omega), hc]
    exact not_tagAt_last hp (by omega)
  have hend : tagAt recv.buffer endTag (gap + (m.length + 4)) := by
    rw [tagAt_content (by omega), hc]
    exact tagAt_end
  have hscan : scan recv.buffer endTag (recv.size + gap) recv.size (gap + (m.length + 3)) =
      gap + (m.length + 4) := by
    refine scan_eq (by omega) (by omega) (fun k h1 h2 => ?_) fun h => h.2 hend
    obtain rfl : k = gap + (m.length + 3) := by omega
    exact ⟨by omega, hlast⟩
  rw [round_of_start (by omega) (by rw [hc]; exact tagAt_start hp (by omega)),
    roundFrom_of_size hm hsize hc hp (by omega), hscan]
  obtain ⟨recv', hfin, hbuf, hsz, hmiss⟩ :=
    @finish_of_tagAt cfg recv gap (gap + 4) _ (commandSize m 0) (by omega) hend
  refine ⟨recv', ?_, hbuf, by omega, hmiss⟩
  rw [hfin]
  have hcmd : (recv.buffer.drop (gap + 4)).take ((gap + (m.length + 4) - (gap + 4)) % 2 ^ 32) = m := by
    rw [show gap + (m.length + 4) - (gap + 4) = m.length by omega, Nat.mod_eq_of_lt (by omega)]
    have h := congrArg (fun l => (l.drop 4).take m.length) hc
    simp only [RecvBuffer.content, List.drop_take, List.drop_drop, List.take_take] at h
    rw [Nat.min_eq_left (by omega)] at h
    rw [h, LocalClient.sendQueued, List.append_assoc, List.append_assoc,
      show (4 : ℕ) = startTag.length from rfl, List.drop_left, List.take_left]
  rw [hcmd]
  congr 1

/-- The buffer of a round that has to wait: a rest of three bytes is left where it stands, another
one is copied to the front. -/
def waiting (recv : RecvBuffer) (gap : ℕ) (n : UInt32) : RecvBuffer :=
  if recv.size = 3 then recv
  else if gap ≠ 0 then (missing recv n).shift gap
  else missing recv n

/-- A round on the beginning of a frame waits for more, unless it is misled.

**Proof sketch.** By the number of bytes that are there. With up to seven, no end tag fits behind
the start tag; with eight to ten, none is there because the bytes are not misleading; with eleven
and more, the search starts at the last byte of the command, where there is no end tag, and one
byte later there is none that is complete. -/
lemma round_of_part (hm : LocalCommand cfg m) (hp : p <+: LocalClient.sendQueued m)
    (hlt : p.length < m.length + 8) (hpos : 0 < p.length) (hgood : ¬ Misleading p)
    (hsize : recv.size = p.length) (hc : recv.content gap = p) :
    ∃ n, round cfg recv gap = .wait (waiting recv gap n) := by
  have h7 := hm.header
  have hp' : p <+: LocalClient.sendQueued m ++ [] := by rwa [List.append_nil]
  have hstart (h4 : 4 ≤ p.length) : round cfg recv gap = roundFrom cfg recv gap (gap + 4) :=
    round_of_start (by omega) (by rw [hc]; exact tagAt_start hp' h4)
  have hwait {n : UInt32} {e : ℕ} (h3 : p.length ≠ 3) (he : recv.size + gap ≤ e + 3) :
      finish cfg recv gap (gap + 4) n e = .wait (waiting recv gap n) := by
    have h3' : recv.size ≠ 3 := by omega
    rw [finish_of_le he]
    simp only [waiting, if_neg h3']
  by_cases h3 : p.length = 3
  · refine ⟨0, ?_⟩
    rw [LocalServer.round, scan_of_le (by omega), if_pos (by omega), waiting, if_pos (by omega)]
  by_cases h4 : p.length < 4
  · refine ⟨0, ?_⟩
    rw [LocalServer.round, scan_of_le (by omega), if_neg (by omega), roundFrom_of_lt (by omega),
      scan_of_le (by omega), hwait h3 (by omega)]
  by_cases h8 : p.length < 8
  · refine ⟨0, ?_⟩
    rw [hstart (by omega), roundFrom_of_lt (by omega), scan_of_le (by omega),
      hwait h3 (by omega)]
  by_cases h11 : p.length < 11
  · have hscan : scan recv.buffer endTag (recv.size + gap) recv.size (gap + 4) =
        gap + (p.length - 3) := by
      refine scan_eq (by omega) (by omega) (fun k h1 h2 => ⟨by omega, fun htag => ?_⟩) (by omega)
      obtain ⟨j, rfl⟩ : ∃ j, k = gap + (4 + j) := ⟨k - gap - 4, by omega⟩
      rw [tagAt_content (by omega), hc] at htag
      exact hgood ⟨by omega, by omega, j, by omega, htag⟩
    refine ⟨0, ?_⟩
    rw [hstart (by omega), roundFrom_of_lt (by omega), hscan, hwait h3 (by omega)]
  · refine ⟨commandSize m 0, ?_⟩
    rw [hstart (by omega), roundFrom_of_size hm hsize hc hp' (by omega)]
    rcases Nat.lt_or_ge p.length (m.length + 7) with h | h
    · rw [scan_of_le (by omega), hwait h3 (by omega)]
    · have hlast : ¬ tagAt recv.buffer endTag (gap + (m.length + 3)) := by
        rw [tagAt_content (by omega), hc]
        exact not_tagAt_last hp' (by omega)
      have hscan : scan recv.buffer endTag (recv.size + gap) recv.size (gap + (m.length + 3)) =
          gap + (m.length + 4) := by
        refine scan_eq (by omega) (by omega) (fun k h1 h2 => ?_) (by omega)
        obtain rfl : k = gap + (m.length + 3) := by omega
        exact ⟨by omega, hlast⟩
      rw [hscan, hwait h3 (by omega)]

/-- A round on a misleading beginning of a frame hands a piece of at most two bytes to the host. -/
lemma round_of_misleading (hp : p <+: LocalClient.sendQueued m) (hbad : Misleading p)
    (hsize : recv.size = p.length) (hc : recv.content gap = p) :
    ∃ recv' gap' b, round cfg recv gap = .found recv' gap' b ∧ b.length < 7 := by
  classical
  obtain ⟨h8, h10, hex⟩ := hbad
  have hp' : p <+: LocalClient.sendQueued m ++ [] := by rwa [List.append_nil]
  obtain ⟨hj, htag⟩ := Nat.find_spec hex
  have hmin : ∀ j < Nat.find hex, ¬ (j + 8 ≤ p.length ∧ tagAt p endTag (4 + j)) :=
    fun j hlt => Nat.find_min hex hlt
  generalize Nat.find hex = j at hj htag hmin
  have hfound : tagAt recv.buffer endTag (gap + (4 + j)) := by
    rw [tagAt_content (by omega), hc]
    exact htag
  have hscan : scan recv.buffer endTag (recv.size + gap) recv.size (gap + 4) = gap + (4 + j) := by
    refine scan_eq (by omega) (by omega) (fun k h1 h2 => ⟨by omega, fun hk => ?_⟩)
      fun h => h.2 hfound
    obtain ⟨i, rfl⟩ : ∃ i, k = gap + (4 + i) := ⟨k - gap - 4, by omega⟩
    rw [tagAt_content (by omega), hc] at hk
    exact hmin i (by omega) ⟨by omega, hk⟩
  obtain ⟨recv', hfin, -⟩ := @finish_of_tagAt cfg recv gap (gap + 4) _ 0 (by omega) hfound
  refine ⟨recv', gap + (4 + j) + 4,
    (recv.buffer.drop (gap + 4)).take ((gap + (4 + j) - (gap + 4)) % 2 ^ 32), ?_, ?_⟩
  · rw [round_of_start (by omega) (by rw [hc]; exact tagAt_start hp' (by omega)),
      roundFrom_of_lt (by omega), hscan, hfin]
  · rw [List.length_take, show gap + (4 + j) - (gap + 4) = j by omega]
    have := Nat.mod_le j (2 ^ 32)
    omega

end Round

/-! ## The loop -/

section Loop

variable {cfg : RecvConfig}

/-- The beginning of a frame, or nothing. -/
def LocalPart (cfg : RecvConfig) (p : List UInt8) : Prop :=
  p = [] ∨ ∃ m, LocalCommand cfg m ∧ p <+: LocalClient.sendQueued m ∧
    p.length < (LocalClient.sendQueued m).length

/-- The state of the loop behind some whole frames: the rest `p` is pending at `gap'`. -/
structure Taken (recv recv' : RecvBuffer) (gap gap' : ℕ) (p : List UInt8) : Prop where
  buffer : recv'.buffer = recv.buffer
  size : recv'.size = p.length
  content : recv'.content gap' = p
  gap : gap' + recv'.size = gap + recv.size
  missing : recv'.missingCapacity = 0

/-- The loop takes the whole frames away, one in every round, and goes on with the rest if there is
one.

**Proof sketch.** Induction on the frames. A round takes the first one away; the loop goes on if
bytes are left, and if none are left, there are no more frames either. -/
lemma loop_frames : ∀ (ms : List (List UInt8)) (fuel : ℕ) (recv : RecvBuffer) (gap : ℕ)
    (p : List UInt8), (∀ m ∈ ms, LocalCommand cfg m) → recv.size < 2 ^ 32 → recv.size < fuel →
    recv.size = ((ms.map LocalClient.sendQueued).flatten ++ p).length →
    recv.content gap = (ms.map LocalClient.sendQueued).flatten ++ p →
    recv.missingCapacity = 0 → 0 < recv.size →
    ∃ recv' gap' fuel', Taken recv recv' gap gap' p ∧ recv'.size < fuel' ∧
      (ms = [] → gap' = gap) ∧
      loop cfg fuel recv gap = if p = [] then (recv', false, ms)
        else ((loop cfg fuel' recv' gap').1, (loop cfg fuel' recv' gap').2.1,
          ms ++ (loop cfg fuel' recv' gap').2.2) := by
  intro ms
  induction ms with
  | nil =>
    intro fuel recv gap p _ _ hfuel hsize hc hmiss hpos
    have hp : p ≠ [] := by
      rintro rfl
      simp at hsize
      omega
    refine ⟨recv, gap, fuel, ⟨rfl, hsize, hc, rfl, hmiss⟩, hfuel, fun _ => rfl, ?_⟩
    rw [if_neg hp]
    rfl
  | cons m ms ih =>
    intro fuel recv gap p hms hword hfuel hsize hc hmiss hpos
    obtain ⟨fuel, rfl⟩ : ∃ k, fuel = k + 1 := ⟨fuel - 1, by omega⟩
    rw [List.map_cons, List.flatten_cons, List.append_assoc] at hsize hc
    have hlen : recv.size = m.length + 8 + ((ms.map LocalClient.sendQueued).flatten ++ p).length := by
      rw [hsize, List.length_append, length_sendQueued]
    obtain ⟨recv₁, hround, hbuf, hrest, hmiss₁⟩ :=
      round_of_frame (hms m List.mem_cons_self) hword hsize hc
    have hcont : recv₁.content (gap + (m.length + 8)) =
        (ms.map LocalClient.sendQueued).flatten ++ p := by
      rw [← length_sendQueued m]
      exact RecvBuffer.content_add hsize hc hbuf hrest
    by_cases hzero : recv₁.size = 0
    · -- the stream ends with this frame
      have hnil : (ms.map LocalClient.sendQueued).flatten ++ p = [] :=
        List.length_eq_zero_iff.mp (by omega)
      obtain ⟨hflat, rfl⟩ := List.append_eq_nil_iff.mp hnil
      have hms' : ms = [] := by
        cases ms with
        | nil => rfl
        | cons m' ms => simp [LocalClient.sendQueued, startTag] at hflat
      subst hms'
      refine ⟨recv₁, gap + (m.length + 8), 1, ⟨hbuf, hzero, hcont, by omega, hmiss₁⟩, by omega,
        fun h => by simp at h, ?_⟩
      rw [loop, hround, if_pos rfl]
      exact if_neg (by omega)
    · obtain ⟨recv', gap', fuel', ht, hf, -, hloop⟩ := ih fuel recv₁ (gap + (m.length + 8)) p
        (fun m' hm' => hms m' (List.mem_cons_of_mem m hm')) (by omega) (by omega) hrest hcont hmiss₁
        (Nat.pos_of_ne_zero hzero)
      have hgap := ht.gap
      refine ⟨recv', gap', fuel', ⟨ht.buffer.trans hbuf, ht.size, ht.content, by omega, ht.missing⟩,
        hf, fun h => by simp at h, ?_⟩
      rw [loop, hround]
      simp only [if_pos (Nat.pos_of_ne_zero hzero), hloop]
      split_ifs <;> rfl

/-- Room is asked for up to the largest 32-bit number. -/
lemma missing_spec (recv : RecvBuffer) (n : UInt32) (hmiss : recv.missingCapacity = 0)
    (hword : recv.size < 2 ^ 32) :
    (missing recv n).buffer = recv.buffer ∧ (missing recv n).size = recv.size ∧
      (missing recv n).size + (missing recv n).missingCapacity.toNat < 2 ^ 32 := by
  have hsize : (UInt32.ofNat recv.size).toNat = recv.size := by
    rw [UInt32.toNat_ofNat']
    exact Nat.mod_eq_of_lt hword
  unfold missing
  split_ifs with h15 h11
  · refine ⟨rfl, rfl, ?_⟩
    have hlt := (n + 15).toNat_lt
    dsimp only
    rw [UInt32.toNat_sub_of_le _ _ (by rw [UInt32.le_iff_toNat_le]; omega), hsize]
    omega
  · refine ⟨rfl, rfl, ?_⟩
    dsimp only
    rw [UInt32.toNat_sub_of_le _ _ (by rw [UInt32.le_iff_toNat_le, hsize]; change _ ≤ 11; omega),
      hsize]
    change recv.size + (11 - recv.size) < _
    omega
  · refine ⟨rfl, rfl, ?_⟩
    rw [hmiss]
    simpa using hword

/-- A rest that has to wait stands at the front of the buffer afterwards. A rest of three bytes is
not copied there, but then a whole frame was there before, whose first three bytes are the same. -/
lemma waiting_spec {recv : RecvBuffer} {gap : ℕ} {p : List UInt8} (n : UInt32)
    (hc : recv.content gap = p) (hsize : recv.size = p.length)
    (hmiss : recv.missingCapacity = 0) (hfit : gap + recv.size ≤ recv.buffer.length)
    (hword : recv.buffer.length < 2 ^ 32)
    (hfront : gap ≠ 0 → recv.size = 3 → recv.content 0 = p) :
    (waiting recv gap n).content 0 = p ∧ (waiting recv gap n).size = recv.size ∧
      (waiting recv gap n).buffer.length = recv.buffer.length ∧
      (waiting recv gap n).size + (waiting recv gap n).missingCapacity.toNat < 2 ^ 32 := by
  obtain ⟨hbuf, hsz, hroom⟩ := missing_spec recv n hmiss (by omega)
  unfold waiting
  split_ifs with h3 hgap
  · refine ⟨?_, rfl, rfl, ?_⟩
    · by_cases hgap : gap = 0
      · rw [← hc, hgap]
      · exact hfront hgap h3
    · rw [hmiss, h3]
      decide
  · have hfit' : gap + (missing recv n).size ≤ (missing recv n).buffer.length := by
      rw [hbuf, hsz]
      exact hfit
    refine ⟨?_, hsz, ?_, ?_⟩
    · rw [RecvBuffer.content_shift hfit', ← hc, RecvBuffer.content, hbuf, hsz]
      rfl
    · rw [RecvBuffer.length_buffer_shift hfit', hbuf]
    · simp only [RecvBuffer.shift]
      split_ifs
      · change (missing recv n).size + 0 < 2 ^ 32
        omega
      · exact hroom
  · have hgap' : gap = 0 := not_not.mp hgap
    refine ⟨?_, hsz, by rw [hbuf], hroom⟩
    rw [← hc, hgap', RecvBuffer.content, hbuf, hsz]
    rfl

/-- The receiver never asks for a buffer that is too long for 32 bits. -/
lemma length_buffer_receive {recv : RecvBuffer} (hinit : cfg.initialSize < 2 ^ 32)
    (hword : recv.buffer.length < 2 ^ 32)
    (hroom : recv.size + recv.missingCapacity.toNat < 2 ^ 32) :
    (recv.receive cfg).buffer.length < 2 ^ 32 := by
  unfold RecvBuffer.receive
  dsimp only
  split_ifs
  · rw [RecvBuffer.length_buffer_resize]
    exact hroom
  · exact hword
  · change (recv.resize cfg.initialSize).buffer.length < 2 ^ 32
    rw [RecvBuffer.length_buffer_resize]
    exact hinit
  · exact hword

end Loop

/-! ## The callback -/

section Callback

variable {cfg : RecvConfig}

/-- A connection that waits behind the beginning `p` of a frame. -/
structure LocalPending (cfg : RecvConfig) (c : Connection) (p : List UInt8) : Prop where
  ready : c.recv.Ready p
  receiving : c.receiving = true
  word : c.recv.buffer.length < 2 ^ 32
  fresh : ∀ m, LocalCommand cfg m → ¬ LocalClient.sendQueued m <+: p
  good : ¬ Misleading p

/-- The chunks that the socket can hand to a connection. -/
def LocalAccepts (c : Connection) (chunk : List UInt8) : Prop :=
  c.receiving = true ∧ chunk.length ≤ c.recv.offered

/-- The connection as a receiver of chunks. -/
def LocalServer.step (cfg : RecvConfig) (c : Connection) (chunk : List UInt8) :
    Connection × List (List UInt8) :=
  receiveCbk cfg c .success chunk

/-- A callback with some bytes, when the loop is not left by a return. -/
lemma step_of_loop {c : Connection} {chunk : List UInt8} {recv : RecvBuffer}
    {commands : List (List UInt8)} (hne : chunk ≠ [])
    (h : loop cfg ((c.recv.store chunk).size + 1) (c.recv.store chunk) 0 = (recv, false, commands)) :
    LocalServer.step cfg c chunk = ({ recv := recv.receive cfg, receiving := true }, commands) := by
  simp [LocalServer.step, receiveCbk, hne, h]

/-- A callback without bytes delivers nothing. -/
lemma step_nil (c : Connection) :
    LocalServer.step cfg c [] = ({ recv := c.recv.receive cfg, receiving := true }, []) := by
  simp [LocalServer.step, receiveCbk]

/-- No frame is the beginning of a part of another one: their size fields stand in the same
place. -/
lemma LocalPart.fresh {p : List UInt8} (hp : LocalPart cfg p) (m : List UInt8)
    (hm : LocalCommand cfg m) : ¬ LocalClient.sendQueued m <+: p := by
  intro hpre
  have hle := hpre.length_le
  have h7 := hm.header
  rw [length_sendQueued] at hle
  rcases hp with rfl | ⟨m', hm', hp', hlt⟩
  · simp at hle
  · rw [length_sendQueued] at hlt
    have h1 : commandSize p 4 = commandSize m' 0 :=
      commandSize_eq hm'.header (x := []) (by rwa [List.append_nil]) (by omega)
    have h2 : commandSize p 4 = commandSize m 0 := by
      obtain ⟨y, rfl⟩ := hpre
      exact commandSize_eq h7 (List.prefix_refl _) (by omega)
    have hsize := hm.size
    have hsize' := hm'.size
    rw [h1] at h2
    rw [← h2] at hsize
    omega

/-- The first three bytes of a frame. -/
lemma take_three_sendQueued {m x p : List UInt8} (hp : p <+: LocalClient.sendQueued m ++ x)
    (h3 : 3 ≤ p.length) : p.take 3 = startTag.take 3 := by
  obtain ⟨y, hy⟩ := hp
  have h := congrArg (List.take 3) hy
  rw [List.take_append_of_le_length h3] at h
  rw [h]
  rfl

/-- What a callback finds behind the whole frames of its bytes. -/
lemma loop_of_store {c : Connection} {p chunk p' : List UInt8} {ms : List (List UInt8)}
    (hc : LocalPending cfg c p) (hacc : LocalAccepts c chunk) (hne : chunk ≠ [])
    (hms : ∀ m ∈ ms, LocalCommand cfg m)
    (hcat : p ++ chunk = (ms.map LocalClient.sendQueued).flatten ++ p') :
    ∃ recv' gap' fuel', Taken (c.recv.store chunk) recv' 0 gap' p' ∧ recv'.size < fuel' ∧
      (ms = [] → gap' = 0) ∧
      loop cfg ((c.recv.store chunk).size + 1) (c.recv.store chunk) 0 =
        if p' = [] then (recv', false, ms)
        else ((loop cfg fuel' recv' gap').1, (loop cfg fuel' recv' gap').2.1,
          ms ++ (loop cfg fuel' recv' gap').2.2) := by
  have hroom := hc.ready.room
  have hword := hc.word
  have hlen := hacc.2
  have hpos : 0 < chunk.length := List.length_pos_iff.mpr hne
  obtain ⟨hcont, hsize, hfit⟩ := hc.ready.store hlen
  rw [hcat] at hcont hsize
  have hstore : (c.recv.store chunk).size = c.recv.size + chunk.length := rfl
  exact loop_frames ms _ _ 0 p' hms (by omega) (by omega) hsize hcont hc.ready.missing (by omega)

/-- If a whole frame was in front of a rest of three bytes, the three bytes at the front of the
buffer are the same. -/
lemma content_zero_of_three {recv recv' : RecvBuffer} {gap' : ℕ} {p : List UInt8}
    {ms : List (List UInt8)} (ht : Taken recv recv' 0 gap' p) (hms : ms ≠ [])
    (hp : LocalPart cfg p) (hc : recv.content 0 = (ms.map LocalClient.sendQueued).flatten ++ p)
    (h3 : recv'.size = 3) : recv'.content 0 = p := by
  have hgap := ht.gap
  have hlen : p.length = 3 := by rw [← ht.size, h3]
  have hpfront : p = startTag.take 3 := by
    rcases hp with rfl | ⟨m, -, hpre, -⟩
    · simp at hlen
    · have h := take_three_sendQueued (m := m) (x := []) (by rwa [List.append_nil]) hlen.ge
      rwa [List.take_of_length_le hlen.le] at h
  obtain ⟨m, ms', rfl⟩ := List.exists_cons_of_ne_nil hms
  have hfront := congrArg (List.take 3) hc
  rw [List.map_cons, List.flatten_cons, List.append_assoc,
    take_three_sendQueued (List.prefix_refl _) (by simp [LocalClient.sendQueued, startTag]),
    RecvBuffer.content, List.drop_zero, List.take_take, Nat.min_eq_left (by omega)] at hfront
  rw [RecvBuffer.content, ht.buffer, List.drop_zero, h3, hfront, hpfront]

/-- A callback that does not end with a misleading beginning of a frame delivers the commands that
it completes. -/
lemma step_of_good {c : Connection} {p chunk p' : List UInt8} {ms : List (List UInt8)}
    (hinit : cfg.initialSize < 2 ^ 32) (hc : LocalPending cfg c p) (hacc : LocalAccepts c chunk)
    (hne : chunk ≠ []) (hms : ∀ m ∈ ms, LocalCommand cfg m) (hp' : LocalPart cfg p')
    (hgood : ¬ Misleading p') (hcat : p ++ chunk = (ms.map LocalClient.sendQueued).flatten ++ p') :
    (LocalServer.step cfg c chunk).2 = ms ∧ LocalPending cfg (LocalServer.step cfg c chunk).1 p' := by
  have hword := hc.word
  obtain ⟨hcont, hsize, hfit⟩ := hc.ready.store hacc.2
  have hbuflen : (c.recv.store chunk).buffer.length = c.recv.buffer.length := by
    have hroom := hc.ready.room
    have hlen := hacc.2
    exact RecvBuffer.length_buffer_store (by omega)
  obtain ⟨recv', gap', fuel', ht, hfuel, hgap0, hloop⟩ := loop_of_store hc hacc hne hms hcat
  have hgap := ht.gap
  have hbuf : recv'.buffer.length = c.recv.buffer.length := by rw [ht.buffer, hbuflen]
  suffices hend : ∃ r : RecvBuffer, loop cfg ((c.recv.store chunk).size + 1) (c.recv.store chunk) 0 =
      (r, false, ms) ∧ r.content 0 = p' ∧ r.size ≤ r.buffer.length ∧ r.buffer.length < 2 ^ 32 ∧
      r.size + r.missingCapacity.toNat < 2 ^ 32 by
    obtain ⟨r, hr, hrc, hrfit, hrword, hrroom⟩ := hend
    rw [step_of_loop hne hr]
    have hready := RecvBuffer.ready_receive cfg hrfit
    rw [hrc] at hready
    exact ⟨rfl, hready, rfl, length_buffer_receive hinit hrword hrroom, hp'.fresh, hgood⟩
  have hpart := hp'
  rcases hp' with rfl | ⟨m, hm, hpre, hlt⟩
  · have hzero : recv'.size = 0 := ht.size
    refine ⟨recv', by rw [hloop, if_pos rfl], ?_, by omega, by omega, ?_⟩
    · rw [RecvBuffer.content, hzero, List.take_zero]
    · rw [ht.missing, hzero]
      decide
  · by_cases hnil : p' = []
    · have hzero : recv'.size = 0 := by rw [ht.size, hnil, List.length_nil]
      refine ⟨recv', by rw [hloop, if_pos hnil], ?_, by omega, by omega, ?_⟩
      · rw [RecvBuffer.content, hzero, List.take_zero, hnil]
      · rw [ht.missing, hzero]
        decide
    · rw [length_sendQueued] at hlt
      obtain ⟨n, hround⟩ := round_of_part hm hpre hlt (List.length_pos_iff.mpr hnil) hgood ht.size
        ht.content
      obtain ⟨hwc, hws, hwl, hwr⟩ := waiting_spec n ht.content ht.size ht.missing (by omega)
        (by omega) fun hgne h3 => content_zero_of_three ht (fun h => hgne (hgap0 h)) hpart
          (by rw [hcont, hcat]) h3
      refine ⟨waiting recv' gap' n, ?_, hwc, by omega, by omega, hwr⟩
      obtain ⟨k, rfl⟩ : ∃ k, fuel' = k + 1 := ⟨fuel' - 1, by omega⟩
      rw [hloop, if_neg hnil, loop, hround]
      simp

/-- A callback that ends with a misleading beginning of a frame delivers something that is no
command. -/
lemma step_of_misleading {c : Connection} {p chunk p' : List UInt8} {ms : List (List UInt8)}
    (hc : LocalPending cfg c p) (hacc : LocalAccepts c chunk) (hne : chunk ≠ [])
    (hms : ∀ m ∈ ms, LocalCommand cfg m) (hp' : LocalPart cfg p') (hbad : Misleading p')
    (hcat : p ++ chunk = (ms.map LocalClient.sendQueued).flatten ++ p') :
    ∃ b ∈ (LocalServer.step cfg c chunk).2, ¬ LocalCommand cfg b := by
  obtain ⟨recv', gap', fuel', ht, hfuel, -, hloop⟩ := loop_of_store hc hacc hne hms hcat
  have h8 := hbad.1
  have hnil : p' ≠ [] := by
    rintro rfl
    simp at h8
  rcases hp' with rfl | ⟨m, -, hpre, -⟩
  · exact absurd rfl hnil
  obtain ⟨recv'', gap'', b, hround, hb⟩ :=
    @round_of_misleading cfg _ _ _ _ hpre hbad ht.size ht.content
  refine ⟨b, ?_, fun h => by have := h.header; omega⟩
  obtain ⟨k, rfl⟩ : ∃ k, fuel' = k + 1 := ⟨fuel' - 1, by omega⟩
  have hmem : b ∈ (loop cfg ((c.recv.store chunk).size + 1) (c.recv.store chunk) 0).2.2 := by
    rw [hloop, if_neg hnil]
    refine List.mem_append_right _ ?_
    rw [loop, hround]
    dsimp only
    split_ifs <;> exact List.mem_cons_self
  have hstep : (LocalServer.step cfg c chunk).2 =
      (loop cfg ((c.recv.store chunk).size + 1) (c.recv.store chunk) 0).2.2 := by
    simp only [LocalServer.step, receiveCbk, hne, reduceCtorEq, if_false, ne_eq, not_false_iff,
      and_self, if_true]
    split_ifs <;> rfl
  rw [hstep]
  exact hmem

/-- A callback without bytes leaves everything as it is. -/
lemma step_of_nil {c : Connection} {p p' : List UInt8} {ms : List (List UInt8)}
    (hinit : cfg.initialSize < 2 ^ 32) (hc : LocalPending cfg c p)
    (hms : ∀ m ∈ ms, LocalCommand cfg m)
    (hcat : p ++ [] = (ms.map LocalClient.sendQueued).flatten ++ p') :
    ms = [] ∧ p' = p ∧ (LocalServer.step cfg c []).2 = [] ∧
      LocalPending cfg (LocalServer.step cfg c []).1 p := by
  have hnil : ms = [] := by
    cases ms with
    | nil => rfl
    | cons m ms =>
      refine absurd ?_ (hc.fresh m (hms m List.mem_cons_self))
      rw [List.append_nil, List.map_cons, List.flatten_cons, List.append_assoc] at hcat
      rw [hcat]
      exact List.prefix_append _ _
  subst hnil
  have hroom := hc.ready.room
  have hword := hc.word
  have hready := RecvBuffer.ready_receive cfg (b := c.recv) (by omega)
  rw [hc.ready.content] at hready
  rw [step_nil]
  refine ⟨rfl, by simpa using hcat.symm, rfl, hready, rfl, ?_, hc.fresh, hc.good⟩
  refine length_buffer_receive hinit hword ?_
  rw [hc.ready.missing]
  change c.recv.size + 0 < 2 ^ 32
  omega

end Callback

/-- The buffer of a new connection is short. -/
lemma initialSize_config (max shrink : UInt32) : (config max shrink).initialSize < 2 ^ 32 := by
  change initialSize < 2 ^ 32
  decide

/-- The local server reassembles the commands that are sent to it. -/
lemma LocalServer.reassembles (max shrink : UInt32) :
    Framing.Reassembles (LocalServer.step (config max shrink)) LocalClient.sendQueued
      (LocalCommand (config max shrink)) (fun p => ¬ Misleading p) LocalAccepts
      (LocalPending (config max shrink)) where
  step_eq := by
    intro c p chunk ms p' hc hacc hms hp' hgood hcat
    by_cases hne : chunk = []
    · subst hne
      obtain ⟨rfl, rfl, hdel, hpend⟩ := step_of_nil (initialSize_config _ _) hc hms hcat
      exact ⟨hdel, hpend⟩
    · exact step_of_good (initialSize_config _ _) hc hacc hne hms hp' hgood hcat

/-- A new connection waits for its first frame. -/
lemma localPending_start (max shrink : UInt32) :
    LocalPending (config max shrink) (LocalServer.start (config max shrink)) [] := by
  refine ⟨RecvBuffer.ready_init _, rfl, ?_, LocalPart.fresh (Or.inl rfl), fun h => ?_⟩
  · have hinit := initialSize_config max shrink
    refine length_buffer_receive hinit ?_ ?_
    · simpa only [RecvBuffer.init, List.length_replicate] using hinit
    · change 0 + 0 < 2 ^ 32
      decide
  · have := h.1
    simp at this

/-- The local server endpoint delivers exactly the commands of a stream, in order, if and only if
no callback ends with a misleading beginning of a frame.

**Proof sketch.** A callback takes the whole frames of its bytes and is left with the beginning of
another one. If it is not misleading, the connection waits behind it; if it is, a piece that is too
short for a command is delivered. The rule `Framing.Reassembles.run_eq_iff` does the induction on
the callbacks. -/
theorem local_delivers_iff (max shrink : UInt32) (ms : List (List UInt8))
    (hms : ∀ m ∈ ms, LocalCommand (config max shrink) m) (cs : List (List UInt8))
    (hcut : Framing.Cut (LocalServer.step (config max shrink)) LocalAccepts
      (LocalServer.start (config max shrink)) cs)
    (hcat : cs.flatten = (ms.map LocalClient.sendQueued).flatten) :
    (Framing.run (LocalServer.step (config max shrink)) (LocalServer.start (config max shrink))
        cs).2 = ms ↔
      ∀ i ≤ cs.length,
        ¬ Misleading (Framing.residue (ms.map LocalClient.sendQueued) (cs.take i).flatten) := by
  refine (LocalServer.reassembles max shrink).run_eq_iff ?_ (localPending_start max shrink)
    (localPending_start max shrink).good hms ?_ hcut hcat
  · intro c p chunk ms p' hc hacc hms hp' hbad hcat
    by_cases hne : chunk = []
    · subst hne
      obtain ⟨rfl, rfl, -⟩ := step_of_nil (initialSize_config _ _) hc hms hcat
      exact absurd hc.good hbad
    · exact step_of_misleading hc hacc hne hms hp' (not_not.mp hbad) hcat
  · intro m _ h
    simp [LocalClient.sendQueued, startTag] at h

/-- A command with an end tag in its payload. -/
def taggedCommand : List UInt8 := [0x17, 0x00, 0x10, 0x04, 0x00, 0x00, 0x00] ++ endTag

/-- The tag in the payload of the command does no harm if the command arrives in pieces of 2, 9, 5
and 3 bytes. -/
theorem local_delivers_taggedCommand :
    (Framing.run (LocalServer.step (config messageSizeUnlimited 5))
      (LocalServer.start (config messageSizeUnlimited 5))
      [startTag.take 2, startTag.drop 2 ++ taggedCommand.take 7,
        taggedCommand.drop 7 ++ endTag.take 1, endTag.drop 1]).2 = [taggedCommand] := by
  refine (local_delivers_iff messageSizeUnlimited 5 [taggedCommand] ?_ _ ?_ (by decide)).mpr ?_
  · intro m hm
    rw [show m = taggedCommand by simpa using hm]
    exact ⟨by decide, by decide, by decide⟩
  · exact ⟨⟨by decide, by decide⟩, ⟨by decide, by decide⟩, ⟨by decide, by decide⟩,
      ⟨by decide, by decide⟩, trivial⟩
  · intro i hi hbad
    obtain ⟨h8, h10, -⟩ := hbad
    revert h8 h10
    have hi' : i ≤ 4 := hi
    interval_cases i <;> decide

/-- A command that makes the connection offer more room. -/
def longCommand : List UInt8 :=
  [0x17, 0x00, 0x10, 0x80, 0x00, 0x00, 0x00] ++ List.replicate 128 0

/-- A command that begins with the end tag: the last byte of the tag is the first one of the size,
which is 103. -/
def endTagCommand : List UInt8 := endTag ++ [0x00, 0x00, 0x00] ++ List.replicate 103 0

/-- If the frame of a command that begins with the end tag is cut behind eight bytes, an empty
command is delivered in its place. -/
theorem not_local_delivers_endTagCommand :
    ¬ ∀ (max shrink : UInt32) (ms : List (List UInt8)),
      (∀ m ∈ ms, LocalCommand (config max shrink) m) → ∀ cs : List (List UInt8),
      Framing.Cut (LocalServer.step (config max shrink)) LocalAccepts
        (LocalServer.start (config max shrink)) cs →
      cs.flatten = (ms.map LocalClient.sendQueued).flatten →
      (Framing.run (LocalServer.step (config max shrink)) (LocalServer.start (config max shrink))
        cs).2 = ms := by
  intro h
  have hrun := h messageSizeUnlimited 5 [longCommand, endTagCommand] ?_
    [startTag ++ longCommand.take 7, longCommand.drop 7 ++ endTag,
      startTag ++ endTagCommand.take 4, endTagCommand.drop 4 ++ endTag] ?_ (by decide +kernel)
  · revert hrun
    decide +kernel
  · intro m hm
    rcases List.mem_pair.mp hm with rfl | rfl
    · exact ⟨by decide +kernel, by decide +kernel, by decide⟩
    · exact ⟨by decide +kernel, by decide +kernel, by decide⟩
  · exact ⟨⟨by decide, by decide⟩, ⟨by decide +kernel, by decide +kernel⟩,
      ⟨by decide +kernel, by decide +kernel⟩, ⟨by decide +kernel, by decide +kernel⟩, trivial⟩

end Vsomeip
