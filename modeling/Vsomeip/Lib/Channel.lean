import Vsomeip.Lib.Framing

set_option relaxedAutoImplicit false
set_option autoImplicit false

/-!
# Byte channels

A sender puts the frames of its messages on a channel, in pieces of any size, and a receiver takes
the bytes from the other end, in chunks of any size. The library gives the invariant that such a
channel keeps if the receiver is one that `Framing.Reassembles` messages: what was delivered, what is
on the way and what is still to be put on the channel are, in order, messages of the sender's log.

## Main definitions

* `Framing.Channel` — the bytes on the way, the receiver, and what it has delivered.
* `Framing.Carries` — the invariant of a channel.

## Main results

* `Framing.Carries.arrive`, `Framing.Carries.put`, `Framing.Carries.append` — a chunk that arrives, a
  piece that is put on the channel and a new message of the log keep the invariant.
* `Framing.Carries.eq_of_empty` — nothing is missing if nothing is on the way.
-/

namespace Framing

variable {α β S : Type}

/-- The bytes that are on the way, the receiver at the end, and what it has delivered. -/
structure Channel (S α β : Type) where
  inFlight : List α
  receiver : S
  delivered : List β

namespace Channel

/-- A new channel to a receiver. -/
def fresh (s : S) : Channel S α β := { inFlight := [], receiver := s, delivered := [] }

/-- The sender puts bytes on the channel. -/
def put (c : Channel S α β) (bytes : List α) : Channel S α β :=
  { c with inFlight := c.inFlight ++ bytes }

/-- The first `n` bytes that are on the way arrive. -/
def arrive (step : S → List α → S × List β) (c : Channel S α β) (n : ℕ) : Channel S α β :=
  { inFlight := c.inFlight.drop n
    receiver := (step c.receiver (c.inFlight.take n)).1
    delivered := c.delivered ++ (step c.receiver (c.inFlight.take n)).2 }

end Channel

/-- The beginning of a stream that ends within a frame behind it: the frames that are complete in it are
some of those in front.

**Proof sketch.** The stream is completed to the end of the frame in which it ends, and split. The last
frame is not complete in its beginning, which is shorter. -/
lemma exists_split_starts (encode : β → List α) {ms rest : List β} {s t p : List α}
    (h : s ++ t = (ms.map encode).flatten ++ p) (hp : Starts (rest.map encode) p) :
    ∃ done todo q, ms = done ++ todo ∧ s = (done.map encode).flatten ++ q ∧
      q ++ t = (todo.map encode).flatten ++ p ∧ Starts ((todo ++ rest).map encode) q := by
  cases rest with
  | nil =>
    obtain rfl : p = [] := hp
    rw [List.append_nil] at h
    obtain ⟨done, todo, q, hms, hs, hq, hstart⟩ := exists_split encode ms s t h
    exact ⟨done, todo, q, hms, hs, by rw [hq, List.append_nil], by rwa [List.append_nil]⟩
  | cons m rest =>
    obtain ⟨⟨z, hz⟩, hlt⟩ := hp
    have hcat : s ++ (t ++ z) = ((ms ++ [m]).map encode).flatten := by
      rw [← List.append_assoc, h, List.map_append, List.flatten_append, List.append_assoc, hz]
      simp
    obtain ⟨done, todo, q, hsplit, hs, hq, hstart⟩ := exists_split encode (ms ++ [m]) s (t ++ z) hcat
    rcases List.eq_nil_or_concat todo with rfl | ⟨todo, m', rfl⟩
    · -- the frame that is only begun would be complete
      rw [List.append_nil] at hsplit
      have hlen := congrArg List.length h
      rw [hs, ← hsplit, List.map_append, List.flatten_append] at hlen
      simp only [List.map_cons, List.map_nil, List.flatten_cons, List.flatten_nil, List.append_nil,
        List.length_append] at hlen
      change p.length < (encode m).length at hlt
      omega
    · rw [List.concat_eq_append, ← List.append_assoc] at hsplit
      obtain ⟨rfl, hm⟩ := List.append_inj' hsplit rfl
      obtain rfl : m = m' := by simpa using hm
      refine ⟨done, todo, q, rfl, hs, ?_, ?_⟩
      · rw [List.concat_eq_append, List.map_append, List.flatten_append, ← List.append_assoc] at hq
        have hz' : (([m].map encode).flatten : List α) = p ++ z := by simp [hz]
        rw [hz', ← List.append_assoc] at hq
        exact List.append_cancel_right hq
      · rw [List.concat_eq_append] at hstart
        cases todo with
        | nil => exact hstart
        | cons m' todo => exact hstart

/-- The channel has delivered messages of the log from `before` on, and others are on the way; the
sender has begun with `p` on the messages `after` them. -/
def Carries (Pending : S → List α → Prop) (encode : β → List α) (log before : List β)
    (c : Channel S α β) (p : List α) (after : List β) : Prop :=
  ∃ todo q, Pending c.receiver q ∧ log = before ++ c.delivered ++ todo ++ after ∧
    q ++ c.inFlight = (todo.map encode).flatten ++ p ∧ Starts (after.map encode) p ∧
    Starts ((todo ++ after).map encode) q

section Carries

variable {step : S → List α → S × List β} {encode : β → List α} {Valid : β → Prop}
  {Accepts : S → List α → Prop} {Pending : S → List α → Prop} {log before after : List β}
  {c : Channel S α β} {p : List α}

/-- Nothing is begun on a list of frames of which none is empty. -/
lemma starts_nil (hne : ∀ m ∈ after, encode m ≠ []) : Starts (after.map encode) [] := by
  cases after with
  | nil => rfl
  | cons m after => exact ⟨List.nil_prefix, List.length_pos_iff.mpr (hne m List.mem_cons_self)⟩

/-- A new channel: everything is still to be sent. -/
lemma Carries.fresh {s : S} (hs : Pending s []) (hne : ∀ m ∈ after, encode m ≠ []) :
    Carries Pending encode (before ++ after) before (Channel.fresh s) [] after :=
  ⟨[], [], hs, by simp [Channel.fresh], rfl, starts_nil hne, starts_nil hne⟩

/-- A chunk that arrives.

**Proof sketch.** The pending part and the chunk are the beginning of what is on the way, and are split
into complete messages and a rest. The receiver delivers the messages and keeps the rest. -/
lemma Carries.arrive (hstep : Reassembles step encode Valid (fun _ => True) Accepts Pending)
    (h : Carries Pending encode log before c p after) (hlog : ∀ m ∈ log, Valid m) {n : ℕ}
    (hacc : Accepts c.receiver (c.inFlight.take n)) :
    Carries Pending encode log before (c.arrive step n) p after := by
  obtain ⟨todo, q, hpending, hsplit, hbytes, hp, hq⟩ := h
  have hcat : q ++ c.inFlight.take n ++ c.inFlight.drop n = (todo.map encode).flatten ++ p := by
    rw [List.append_assoc, List.take_append_drop, hbytes]
  obtain ⟨done, todo, q', rfl, hs, hrest, hq'⟩ := exists_split_starts encode hcat hp
  have hvalid : ∀ m ∈ done ++ (todo ++ after), Valid m := fun m hm => hlog m (by
    rw [hsplit]
    simp only [List.mem_append] at hm ⊢
    tauto)
  obtain ⟨hdelivers, hpending'⟩ := hstep.step_eq hpending hacc
    (fun m hm => hvalid m (List.mem_append_left _ hm))
    (hq'.partial_of fun m hm => hvalid m (List.mem_append_right _ hm)) trivial hs
  refine ⟨todo, q', hpending', ?_, hrest, hp, hq'⟩
  rw [hsplit, Channel.arrive, hdelivers]
  simp only [List.append_assoc]

/-- A piece is put on the channel: it completes some messages and begins the next one. -/
lemma Carries.put (h : Carries Pending encode log before c p after) {x rest : List α}
    (hbytes : p ++ x ++ rest = (after.map encode).flatten) :
    ∃ p' after', Carries Pending encode log before (c.put x) p' after' ∧
      p' ++ rest = (after'.map encode).flatten := by
  obtain ⟨todo, q, hpending, hsplit, hflight, -, hq⟩ := h
  obtain ⟨done, after', p', rfl, hx, hrest, hp'⟩ := exists_split encode after (p ++ x) rest hbytes
  refine ⟨p', after', ⟨todo ++ done, q, hpending, ?_, ?_, hp', ?_⟩, hrest⟩
  · rw [hsplit, Channel.put]
    simp only [List.append_assoc]
  · rw [Channel.put, ← List.append_assoc, hflight, List.append_assoc, hx, List.map_append,
      List.flatten_append, List.append_assoc]
  · rwa [List.append_assoc]

/-- The log grows. -/
lemma Carries.append (h : Carries Pending encode log before c p after) {ms : List β}
    (hne : ∀ m ∈ ms, encode m ≠ []) :
    Carries Pending encode (log ++ ms) before c p (after ++ ms) := by
  have hstarts {fs : List β} {r : List α} (hr : Starts (fs.map encode) r) :
      Starts ((fs ++ ms).map encode) r := by
    cases fs with
    | nil =>
      obtain rfl : r = [] := hr
      exact starts_nil hne
    | cons f fs => exact hr
  obtain ⟨todo, q, hpending, hsplit, hbytes, hp, hq⟩ := h
  refine ⟨todo, q, hpending, ?_, hbytes, hstarts hp, ?_⟩
  · rw [hsplit, List.append_assoc]
  · rw [← List.append_assoc]
    exact hstarts hq

/-- What is delivered stands in the log behind what is not sent on this channel. -/
lemma Carries.begins (h : Carries Pending encode log before c p after) :
    before ++ c.delivered <+: log := by
  obtain ⟨todo, q, -, hsplit, -⟩ := h
  rw [hsplit, List.append_assoc (before ++ c.delivered)]
  exact List.prefix_append _ _

/-- If nothing is on the way and nothing is left to be sent, then everything is delivered. -/
lemma Carries.eq_of_empty (h : Carries Pending encode log before c p after) (hflight : c.inFlight = [])
    (hrest : p = (after.map encode).flatten) : log = before ++ c.delivered := by
  obtain ⟨todo, q, -, hsplit, hbytes, hp, hq⟩ := h
  obtain rfl : after = [] := by simpa using hp.eq_nil hrest
  obtain rfl : p = [] := hrest
  rw [hflight, List.append_nil, List.append_nil] at hbytes
  rw [List.append_nil] at hq
  obtain rfl : todo = [] := by simpa using hq.eq_nil hbytes
  rw [hsplit, List.append_nil, List.append_nil]

end Carries

end Framing
