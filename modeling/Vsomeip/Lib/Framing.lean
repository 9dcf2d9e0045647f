import Mathlib.Data.List.Infix

set_option relaxedAutoImplicit false
set_option autoImplicit false

/-!
# Messages in a stream

A receiver gets a stream in chunks and cuts it into messages. The library gives the rule by which
such a receiver is proved correct: it is enough to say what one chunk does, given the part of a
message that is pending from the chunks before.

A message `m` stands in the stream as `encode m`. After some chunks the stream consists of complete
messages and a `residue`, the beginning of the next one. `Good` says which residues a chunk may end
with; a receiver that handles every residue has `Good := fun _ => True`.

## Main definitions

* `Framing.residue` — what a part of a stream has behind its complete messages.
* `Framing.run` — a receiver on a list of chunks.
* `Framing.Cut` — the receiver accepts the chunks one after the other.
* `Framing.Reassembles` — what a chunk does, for chunks that end with a good residue.
* `Framing.Maximal` — the frames in front of a list of data, as many as there are.
* `Framing.FirstAt` — the first place of a marker in a stream.
* `Framing.Along` — a property holds of every chunk of a run and of what comes after it.

## Main results

* `Framing.Reassembles.run_eq` — if all residues are good, exactly the messages of the stream are
  delivered, in order.
* `Framing.Reassembles.run_eq_iff` — if a bad residue makes the receiver deliver something that is
  not a message, the messages are delivered exactly if all residues are good.
* `Framing.exists_maximal`, `Framing.Maximal.unique` — the frames in front of a list exist and are
  unique.
* `Framing.firstAt_append` — the marker behind a list without one is the first.
* `Framing.exists_run` — the rule for a receiver that is described by what is ahead of it.
-/

namespace Framing

variable {α β S : Type}

/-! ## The residue of a stream -/

/-- What is left of `s` when the frames that are complete in it are taken away. -/
def residue : List (List α) → List α → List α
  | [], s => s
  | f :: fs, s => if f.length ≤ s.length then residue fs (s.drop f.length) else s

/-- Complete frames do not matter to the residue. -/
lemma residue_append (fs gs : List (List α)) (s : List α) :
    residue (fs ++ gs) (fs.flatten ++ s) = residue gs s := by
  induction fs with
  | nil => rfl
  | cons f fs ih =>
    rw [List.cons_append, residue, List.flatten_cons, List.append_assoc, List.drop_left, ih,
      if_pos (by simp)]

/-- `p` is the beginning of the first frame of `fs`, and nothing if there is none. -/
def Starts (fs : List (List α)) (p : List α) : Prop :=
  match fs with
  | [] => p = []
  | f :: _ => p <+: f ∧ p.length < f.length

/-- A stream that has only begun its first frame is a residue. -/
lemma residue_of_starts {fs : List (List α)} {p : List α} (h : Starts fs p) : residue fs p = p := by
  cases fs with
  | nil => rfl
  | cons f fs => rw [residue, if_neg (by have := h.2; omega)]

/-- A beginning of the frames that is all of them is empty, and so are they. -/
lemma Starts.eq_nil {fs : List (List α)} {p : List α} (h : Starts fs p) (hp : p = fs.flatten) :
    fs = [] := by
  cases fs with
  | nil => rfl
  | cons f fs =>
    have hlt := h.2
    rw [hp, List.flatten_cons, List.length_append] at hlt
    omega

/-- The beginning of a stream consists of complete frames and the beginning of the next one. -/
lemma exists_split (encode : β → List α) : ∀ (ms : List β) (s t : List α),
    s ++ t = (ms.map encode).flatten →
    ∃ done todo p, ms = done ++ todo ∧ s = (done.map encode).flatten ++ p ∧
      p ++ t = (todo.map encode).flatten ∧ Starts (todo.map encode) p
  | [], s, t, h => by
    obtain ⟨rfl, rfl⟩ := List.append_eq_nil_iff.mp h
    exact ⟨[], [], [], rfl, rfl, rfl, rfl⟩
  | m :: ms, s, t, h => by
    rw [List.map_cons, List.flatten_cons] at h
    have hm : encode m <+: s ++ t := by
      rw [h]
      exact List.prefix_append _ _
    by_cases hle : (encode m).length ≤ s.length
    · have hpre : encode m <+: s :=
        List.prefix_of_prefix_length_le hm (List.prefix_append _ _) hle
      obtain ⟨s', rfl⟩ := hpre
      rw [List.append_assoc, List.append_cancel_left_eq] at h
      obtain ⟨done, todo, p, rfl, rfl, hp, hs⟩ := exists_split encode ms s' t h
      exact ⟨m :: done, todo, p, rfl, by simp, hp, hs⟩
    · have hlt : s.length < (encode m).length := by omega
      have hpre : s <+: encode m :=
        List.prefix_of_prefix_length_le (List.prefix_append _ _) hm (by omega)
      exact ⟨[], m :: ms, s, rfl, rfl, by simpa using h, hpre, hlt⟩

/-! ## Receivers -/

section Receiver

variable (step : S → List α → S × List β)

/-- The receiver `step` on a list of chunks: the last state and all that was delivered. -/
def run : S → List (List α) → S × List β
  | s, [] => (s, [])
  | s, c :: cs => ((run (step s c).1 cs).1, (step s c).2 ++ (run (step s c).1 cs).2)

/-- The receiver accepts the chunks one after the other. -/
def Cut (Accepts : S → List α → Prop) : S → List (List α) → Prop
  | _, [] => True
  | s, c :: cs => Accepts s c ∧ Cut Accepts (step s c).1 cs

/-- What a chunk `c` does to a receiver in which the beginning `p` of a message is pending: it
delivers the messages that are complete in `p ++ c`, and the rest is pending then. -/
structure Reassembles (encode : β → List α) (Valid : β → Prop) (Good : List α → Prop)
    (Accepts : S → List α → Prop) (Pending : S → List α → Prop) : Prop where
  step_eq : ∀ {s p c} {ms : List β} {p'}, Pending s p → Accepts s c → (∀ m ∈ ms, Valid m) →
    (p' = [] ∨ ∃ m, Valid m ∧ p' <+: encode m ∧ p'.length < (encode m).length) → Good p' →
    p ++ c = (ms.map encode).flatten ++ p' → (step s c).2 = ms ∧ Pending (step s c).1 p'

variable {step} {encode : β → List α} {Valid : β → Prop} {Good : List α → Prop}
  {Accepts : S → List α → Prop} {Pending : S → List α → Prop}

/-- The beginning of a frame of valid messages, in the form of `Reassembles.step_eq`. -/
lemma Starts.partial_of {ms : List β} {p : List α} (h : Starts (ms.map encode) p)
    (hms : ∀ m ∈ ms, Valid m) :
    p = [] ∨ ∃ m, Valid m ∧ p <+: encode m ∧ p.length < (encode m).length := by
  cases ms with
  | nil => exact Or.inl h
  | cons m ms => exact Or.inr ⟨m, hms m List.mem_cons_self, h⟩

/-- The rule for a receiver that goes wrong on bad residues.

**Proof sketch.** Induction on the chunks, with the pending part of a message. A chunk completes
some messages and leaves a residue. If the residue is good, the messages are delivered and the
residue is pending, and the induction hypothesis speaks about the remaining messages; if it is bad,
something is delivered that is no message, and both sides are false. -/
lemma Reassembles.run_eq_iff_of_pending (h : Reassembles step encode Valid Good Accepts Pending)
    (hbad : ∀ {s p c} {ms : List β} {p'}, Pending s p → Accepts s c → (∀ m ∈ ms, Valid m) →
      (p' = [] ∨ ∃ m, Valid m ∧ p' <+: encode m ∧ p'.length < (encode m).length) → ¬ Good p' →
      p ++ c = (ms.map encode).flatten ++ p' → ∃ b ∈ (step s c).2, ¬ Valid b) :
    ∀ (cs : List (List α)) (s : S) (p : List α) (ms : List β), Pending s p → Good p →
      (∀ m ∈ ms, Valid m) → Cut step Accepts s cs → p ++ cs.flatten = (ms.map encode).flatten →
      Starts (ms.map encode) p →
      ((run step s cs).2 = ms ↔
        ∀ i ≤ cs.length, Good (residue (ms.map encode) (p ++ (cs.take i).flatten))) := by
  intro cs
  induction cs with
  | nil =>
    intro s p ms hs hp _ _ hcat hstart
    have hms : ms = [] := by
      simpa using hstart.eq_nil (by simpa using hcat)
    subst hms
    refine iff_of_true rfl fun i _ => ?_
    rw [List.take_nil, List.flatten_nil, List.append_nil, residue_of_starts hstart]
    exact hp
  | cons c cs ih =>
    intro s p ms hs hp hms hcut hcat hstart
    obtain ⟨hacc, hcut⟩ := hcut
    rw [List.flatten_cons, ← List.append_assoc] at hcat
    obtain ⟨done, todo, p', rfl, hsplit, hrest, hstart'⟩ := exists_split encode ms (p ++ c) _ hcat
    have hdone : ∀ m ∈ done, Valid m := fun m hm => hms m (List.mem_append_left _ hm)
    have htodo : ∀ m ∈ todo, Valid m := fun m hm => hms m (List.mem_append_right _ hm)
    have hres (i : ℕ) : residue ((done ++ todo).map encode) (p ++ ((c :: cs).take (i + 1)).flatten) =
        residue (todo.map encode) (p' ++ (cs.take i).flatten) := by
      rw [List.take_succ_cons, List.flatten_cons, ← List.append_assoc, hsplit, List.append_assoc,
        List.map_append, residue_append]
    have hres0 : residue ((done ++ todo).map encode) (p ++ ((c :: cs).take 1).flatten) = p' := by
      rw [hres 0, List.take_zero, List.flatten_nil, List.append_nil, residue_of_starts hstart']
    by_cases hgood : Good p'
    · obtain ⟨hdel, hpend⟩ := h.step_eq hs hacc hdone (hstart'.partial_of htodo) hgood hsplit
      have hrec := ih (step s c).1 p' todo hpend hgood htodo hcut hrest hstart'
      rw [run, hdel, List.append_cancel_left_eq, hrec]
      constructor
      · intro hall i hi
        cases i with
        | zero =>
          rw [List.take_zero, List.flatten_nil, List.append_nil, residue_of_starts hstart]
          exact hp
        | succ i =>
          rw [hres]
          exact hall i (by simpa using hi)
      · intro hall i hi
        rw [← hres]
        exact hall (i + 1) (by simpa using hi)
    · refine iff_of_false (fun heq => ?_) fun hall => hgood ?_
      · obtain ⟨b, hb, hinv⟩ := hbad hs hacc hdone (hstart'.partial_of htodo) hgood hsplit
        refine hinv (hms b ?_)
        rw [← heq, run]
        exact List.mem_append_left _ hb
      · rw [← hres0]
        exact hall 1 (by simp)

/-- For a receiver that goes wrong on bad residues: the messages of a stream are delivered exactly
if no chunk ends with a bad residue. -/
lemma Reassembles.run_eq_iff (h : Reassembles step encode Valid Good Accepts Pending)
    (hbad : ∀ {s p c} {ms : List β} {p'}, Pending s p → Accepts s c → (∀ m ∈ ms, Valid m) →
      (p' = [] ∨ ∃ m, Valid m ∧ p' <+: encode m ∧ p'.length < (encode m).length) → ¬ Good p' →
      p ++ c = (ms.map encode).flatten ++ p' → ∃ b ∈ (step s c).2, ¬ Valid b)
    {s : S} {cs : List (List α)} {ms : List β} (hs : Pending s []) (hnil : Good [])
    (hms : ∀ m ∈ ms, Valid m) (hne : ∀ m ∈ ms, encode m ≠ []) (hcut : Cut step Accepts s cs)
    (hcat : cs.flatten = (ms.map encode).flatten) :
    (run step s cs).2 = ms ↔
      ∀ i ≤ cs.length, Good (residue (ms.map encode) (cs.take i).flatten) := by
  refine h.run_eq_iff_of_pending hbad cs s [] ms hs hnil hms hcut hcat ?_
  cases ms with
  | nil => rfl
  | cons m ms =>
    exact ⟨List.nil_prefix, List.length_pos_iff.mpr (hne m List.mem_cons_self)⟩

/-- A receiver that handles every residue delivers the messages of a stream, however it is cut. -/
lemma Reassembles.run_eq (h : Reassembles step encode Valid (fun _ => True) Accepts Pending)
    {s : S} {cs : List (List α)} {ms : List β} (hs : Pending s []) (hms : ∀ m ∈ ms, Valid m)
    (hne : ∀ m ∈ ms, encode m ≠ []) (hcut : Cut step Accepts s cs)
    (hcat : cs.flatten = (ms.map encode).flatten) : (run step s cs).2 = ms :=
  (h.run_eq_iff (fun _ _ _ _ hgood => absurd trivial hgood) hs trivial hms hne hcut hcat).mpr
    fun _ _ => trivial

/-- If no beginning of a frame is bad, all residues are good. -/
lemma Reassembles.of_good (h : Reassembles step encode Valid Good Accepts Pending) (hnil : Good []) :
    Reassembles step encode
      (fun m => Valid m ∧ ∀ p, p <+: encode m → p.length < (encode m).length → Good p)
      (fun _ => True) Accepts Pending where
  step_eq := by
    intro s p c ms p' hs hacc hms hpart _ hcat
    have hgood : Good p' := by
      rcases hpart with rfl | ⟨m, ⟨-, hm⟩, hpre, hlt⟩
      · exact hnil
      · exact hm p' hpre hlt
    have hpart' : p' = [] ∨ ∃ m, Valid m ∧ p' <+: encode m ∧ p'.length < (encode m).length :=
      hpart.imp id fun ⟨m, hm, hpre⟩ => ⟨m, hm.1, hpre⟩
    exact h.step_eq hs hacc (fun m hm => (hms m hm).1) hpart' hgood hcat

end Receiver

/-! ## The frames in front of a list -/

section Maximal

/-- `s` begins with the frames `fs`, and no frame is in front of the rest. -/
structure Maximal (IsFrame : List α → Prop) (s : List α) (fs : List (List α)) (rest : List α) :
    Prop where
  split : s = fs.flatten ++ rest
  frames : ∀ f ∈ fs, IsFrame f
  not_frame : ∀ f, IsFrame f → ¬ f <+: rest

variable {IsFrame : List α → Prop}

/-- The empty stream has no frames. -/
lemma maximal_nil (hne : ∀ f, IsFrame f → f ≠ []) : Maximal IsFrame [] [] [] :=
  ⟨rfl, fun _ hf => absurd hf List.not_mem_nil, fun f hf hpre => hne f hf (List.prefix_nil.mp hpre)⟩

/-- A frame in front of a stream that is cut as far as possible. -/
lemma Maximal.cons {s rest : List α} {fs : List (List α)} (h : Maximal IsFrame s fs rest) {f : List α}
    (hf : IsFrame f) : Maximal IsFrame (f ++ s) (f :: fs) rest :=
  ⟨by rw [h.split, List.flatten_cons, List.append_assoc], List.forall_mem_cons.mpr ⟨hf, h.frames⟩,
    h.not_frame⟩

/-- A stream without its first frame is still cut as far as possible. -/
lemma Maximal.tail {s rest f : List α} {fs : List (List α)}
    (h : Maximal IsFrame (f ++ s) (f :: fs) rest) : Maximal IsFrame s fs rest := by
  refine ⟨?_, (List.forall_mem_cons.mp h.frames).2, h.not_frame⟩
  have hsplit := h.split
  rwa [List.flatten_cons, List.append_assoc, List.append_cancel_left_eq] at hsplit

/-- The empty stream has no frames and no rest. -/
lemma Maximal.eq_nil (hne : ∀ f, IsFrame f → f ≠ []) {rest : List α} {fs : List (List α)}
    (h : Maximal IsFrame [] fs rest) : fs = [] ∧ rest = [] := by
  obtain ⟨hfs, hrest⟩ := List.append_eq_nil_iff.mp h.split.symm
  refine ⟨List.eq_nil_iff_forall_not_mem.mpr fun f hf => ?_, hrest⟩
  exact hne f (h.frames f hf) (List.flatten_eq_nil_iff.mp hfs f hf)

/-- Every list has frames in front of it, maybe none. -/
lemma exists_maximal (hne : ∀ f, IsFrame f → f ≠ []) (s : List α) :
    ∃ fs rest, Maximal IsFrame s fs rest := by
  induction hn : s.length using Nat.strongRecOn generalizing s with
  | _ n ih =>
    by_cases hframe : ∃ f, IsFrame f ∧ f <+: s
    · obtain ⟨f, hf, s, rfl⟩ := hframe
      have hpos := List.length_pos_iff.mpr (hne f hf)
      rw [List.length_append] at hn
      obtain ⟨fs, rest, h⟩ := ih s.length (by omega) s rfl
      exact ⟨f :: fs, rest, h.cons hf⟩
    · refine ⟨[], s, rfl, fun _ hf => absurd hf List.not_mem_nil, fun f hf hpre => ?_⟩
      exact hframe ⟨f, hf, hpre⟩

/-- If at most one frame is in front of a list, then the frames in front of it are unique. -/
lemma Maximal.unique (hfirst : ∀ f f' s, IsFrame f → IsFrame f' → f <+: s → f' <+: s → f = f')
    {s rest rest' : List α} {fs fs' : List (List α)} (h : Maximal IsFrame s fs rest)
    (h' : Maximal IsFrame s fs' rest') : fs = fs' ∧ rest = rest' := by
  induction fs generalizing s fs' with
  | nil =>
    have hs : s = rest := h.split
    cases fs' with
    | nil => exact ⟨rfl, hs.symm.trans h'.split⟩
    | cons f' fs' =>
      refine absurd ?_ (h.not_frame f' (h'.frames f' List.mem_cons_self))
      rw [← hs, h'.split, List.flatten_cons, List.append_assoc]
      exact List.prefix_append f' _
  | cons f fs ih =>
    have hf := h.frames f List.mem_cons_self
    have hpre : f <+: s := by
      rw [h.split, List.flatten_cons, List.append_assoc]
      exact List.prefix_append f _
    cases fs' with
    | nil =>
      have hs : s = rest' := h'.split
      exact absurd (hs ▸ hpre) (h'.not_frame f hf)
    | cons f' fs' =>
      have hpre' : f' <+: s := by
        rw [h'.split, List.flatten_cons, List.append_assoc]
        exact List.prefix_append f' _
      obtain rfl := hfirst f f' s hf (h'.frames f' List.mem_cons_self) hpre hpre'
      obtain ⟨s, rfl⟩ := hpre
      obtain ⟨rfl, rfl⟩ := ih h.tail h'.tail
      exact ⟨rfl, rfl⟩

end Maximal

/-! ## Markers -/

section Marker

variable {marker s t : List α} {o o' : ℕ}

/-- The first place of `marker` in `s` is `o`. -/
structure FirstAt (marker s : List α) (o : ℕ) : Prop where
  here : marker <+: s.drop o
  not_before : ∀ i < o, ¬ marker <+: s.drop i

/-- A marker is first at one place only. -/
lemma FirstAt.unique (h : FirstAt marker s o) (h' : FirstAt marker s o') : o = o' := by
  rcases Nat.lt_trichotomy o o' with hlt | rfl | hlt
  · exact absurd h.here (h'.not_before o hlt)
  · rfl
  · exact absurd h'.here (h.not_before o' hlt)

/-- A marker that is found fits into the stream. -/
lemma FirstAt.le (h : FirstAt marker s o) (hne : marker ≠ []) : o + marker.length ≤ s.length := by
  have hlen := h.here.length_le
  have hpos := List.length_pos_iff.mpr hne
  rw [List.length_drop] at hlen
  omega

instance [DecidableEq α] : Decidable (FirstAt marker s o) :=
  decidable_of_iff (marker <+: s.drop o ∧ ∀ i < o, ¬ marker <+: s.drop i)
    ⟨fun h => ⟨h.1, h.2⟩, fun h => ⟨h.here, h.not_before⟩⟩

/-- The first place in a list is the first place in a longer one. -/
lemma FirstAt.append (h : FirstAt marker s o) (hne : marker ≠ []) (t : List α) :
    FirstAt marker (s ++ t) o := by
  have hlen := h.le hne
  refine ⟨?_, fun i hi hpre => h.not_before i hi ?_⟩
  · rw [List.drop_append_of_le_length (by omega)]
    exact List.prefix_append_of_prefix h.here
  · rw [List.drop_append_of_le_length (by omega)] at hpre
    refine List.prefix_of_prefix_length_le hpre (List.prefix_append _ t) ?_
    rw [List.length_drop]
    omega

/-- A marker stands in a list if it stands behind some of its elements. -/
lemma infix_of_prefix_drop {i : ℕ} (h : marker <+: s.drop i) : marker <:+: s :=
  h.isInfix.trans (List.drop_suffix i s).isInfix

/-- A list is inside another one if it starts at some place. -/
lemma infix_iff_exists_prefix_drop : marker <:+: s ↔ ∃ i, marker <+: s.drop i := by
  constructor
  · rw [List.infix_iff_prefix_suffix]
    rintro ⟨t, hpre, hsuf⟩
    rw [List.suffix_iff_eq_drop] at hsuf
    exact ⟨s.length - t.length, hsuf ▸ hpre⟩
  · rintro ⟨i, h⟩
    exact infix_of_prefix_drop h

/-- No beginning of the marker is one of its ends, so that two markers never overlap. -/
def Unbordered (marker : List α) : Prop :=
  ∀ k < marker.length, k ≠ 0 → ¬ marker.drop k <+: marker

/-- The marker behind a list without one is the first. -/
lemma firstAt_append (hmarker : Unbordered marker) (h : ¬ marker <:+: s) (t : List α) :
    FirstAt marker (s ++ (marker ++ t)) s.length := by
  refine ⟨by rw [List.drop_left]; exact List.prefix_append marker t, fun i hi hpre => ?_⟩
  rw [List.drop_append_of_le_length (Nat.le_of_lt hi)] at hpre
  rcases Nat.lt_or_ge (s.drop i).length marker.length with hlt | hge
  · -- the two markers overlap
    have hlen : (s.drop i).length = s.length - i := List.length_drop
    have hover := hpre.drop (s.drop i).length
    rw [List.drop_left] at hover
    refine hmarker (s.drop i).length hlt (by omega) ?_
    refine List.prefix_of_prefix_length_le hover (List.prefix_append marker t) ?_
    rw [List.length_drop]
    omega
  · exact h (infix_of_prefix_drop
      (List.prefix_of_prefix_length_le hpre (List.prefix_append _ _) hge))

end Marker

/-! ## What comes after a chunk -/

section Later

variable {step : S → List α → S × List β}

/-- `Good` holds of every chunk of a run: of the receiver that gets it, of the chunk, and of the bytes
that come after it. -/
def Along (step : S → List α → S × List β) (Good : S → List α → List α → Prop) :
    S → List (List α) → Prop
  | _, [] => True
  | s, c :: cs => Good s c cs.flatten ∧ Along step Good (step s c).1 cs

variable {Accepts : S → List α → Prop} {Good Good' : S → List α → List α → Prop} {I : S → Prop}

/-- A property of every chunk that implies another one. -/
lemma Along.imp (h : ∀ s c later, Good s c later → Good' s c later) :
    ∀ {cs : List (List α)} {s : S}, Along step Good s cs → Along step Good' s cs
  | [], _, _ => trivial
  | _ :: _, _, halong => ⟨h _ _ _ halong.1, Along.imp h halong.2⟩

instance decidableAlong [∀ s c later, Decidable (Good s c later)] :
    ∀ (cs : List (List α)) (s : S), Decidable (Along step Good s cs)
  | [], _ => isTrue trivial
  | c :: cs, s =>
    have := decidableAlong cs (step s c).1
    inferInstanceAs (Decidable (Good s c cs.flatten ∧ Along step Good (step s c).1 cs))

/-- What is delivered in a run has a property exactly if what is delivered for every chunk has it. -/
lemma forall_run_iff {P : β → Prop} (h : ∀ {s c later}, I s → Accepts s c →
      I (step s c).1 ∧ ((∀ b ∈ (step s c).2, P b) ↔ Good s c later)) :
    ∀ {cs : List (List α)} {s : S}, I s → Cut step Accepts s cs →
      ((∀ b ∈ (run step s cs).2, P b) ↔ Along step Good s cs)
  | [], _, _, _ => iff_of_true (fun _ hb => absurd hb List.not_mem_nil) trivial
  | c :: cs, s, hs, hcut => by
    obtain ⟨hinv, hgood⟩ := @h s c cs.flatten hs hcut.1
    rw [run, Along, List.forall_mem_append, hgood, forall_run_iff h hinv hcut.2]

/-- The rule for a receiver that is described by what is ahead of it in the stream. A chunk leads from
`B` (before) to `A` (after), and changes the description `x` as `R` allows.

**Proof sketch.** Induction on the chunks behind the first one. -/
lemma exists_run {X : Type} {B A : S → List α → X → Prop} {R : X → List β → X → Prop}
    (hstep : ∀ {s c later x}, B s (c ++ later) x → Accepts s c → Good s c later →
      ∃ y, A (step s c).1 later y ∧ R x (step s c).2 y)
    (hbefore : ∀ {s later x}, A s later x → B s later x)
    (htrans : ∀ {x y z bs bs'}, R x bs y → R y bs' z → R x (bs ++ bs') z) :
    ∀ {cs : List (List α)} {c : List α} {s : S} {x : X}, B s (c ++ cs.flatten) x →
      Cut step Accepts s (c :: cs) → Along step Good s (c :: cs) →
      ∃ y, A (run step s (c :: cs)).1 [] y ∧ R x (run step s (c :: cs)).2 y
  | [], c, s, x, hx, hcut, halong => by
    obtain ⟨y, hy, hrel⟩ := hstep hx hcut.1 halong.1
    refine ⟨y, hy, ?_⟩
    rw [run, run, List.append_nil]
    exact hrel
  | c' :: cs, c, s, x, hx, hcut, halong => by
    obtain ⟨y, hy, hrel⟩ := hstep hx hcut.1 halong.1
    obtain ⟨z, hz, hrel'⟩ := exists_run hstep hbefore htrans (hbefore hy) hcut.2 halong.2
    exact ⟨z, hz, htrans hrel hrel'⟩

end Later

end Framing
