import Mathlib.Data.List.GetD
import Vsomeip.Endpoints.Tcp

set_option relaxedAutoImplicit false
set_option autoImplicit false

/-!
# Framing over TCP

With magic cookies disabled, both TCP endpoints deliver exactly the messages of a stream of
consistent SOME/IP messages, however the socket cuts it. All that is needed of a round of either
loop is `Rounds`: on a complete message in front it delivers that message and goes on behind it,
and on the beginning of a message it notes how much is missing and stops.

## Main definitions

* `Vsomeip.TcpMessage` — the messages of the stream.
* `Vsomeip.Rounds` — what a round does on such a stream.

## Main results

* `Vsomeip.tcpLoop_eq` — what the whole loop does.
* `Vsomeip.TcpServer.rounds`, `Vsomeip.TcpClient.rounds` — both endpoints have such rounds.
* `Vsomeip.tcp_delivers` — both deliver the messages of the stream, however it is cut.
-/

namespace Vsomeip

/-- A SOME/IP message with a consistent length field that the endpoint accepts and that is no
cookie. -/
structure TcpMessage (cfg : RecvConfig) (m : List UInt8) : Prop where
  full : 16 ≤ m.length
  length : m.length =
    8 + (bytesToLong (m.getD 4 0) (m.getD 5 0) (m.getD 6 0) (m.getD 7 0)).toNat
  max : m.length ≤ cfg.maxMessageSize.toNat
  not_client : m ≠ clientCookie
  not_service : m ≠ serviceCookie

/-! ## What the front of the buffer says -/

section Front

variable {cfg : RecvConfig} {l : TcpLoop} {m p x : List UInt8}

/-- The received bytes of the front are the pending ones. -/
lemma getD_front {i : ℕ} (hi : i < l.recv.size) :
    l.front.getD i 0 = (l.recv.content l.iterationGap).getD i 0 := by
  simp only [TcpLoop.front, RecvBuffer.content, List.getD_eq_getElem?_getD,
    List.getElem?_take_of_lt hi]

/-- The beginning of the pending bytes stands in the front. -/
lemma take_front (hsize : l.recv.size = (m ++ x).length)
    (hc : l.recv.content l.iterationGap = m ++ x) : l.front.take m.length = m := by
  have hle : m.length ≤ l.recv.size := by rw [hsize, List.length_append]; omega
  have h := congrArg (List.take m.length) hc
  rwa [RecvBuffer.content, List.take_take, Nat.min_eq_left hle, List.take_left] at h

/-- The size of a message with a consistent length field is read from its first eight bytes. -/
lemma getMessageSize_toNat_of_take (hlen : m.length =
      8 + (bytesToLong (m.getD 4 0) (m.getD 5 0) (m.getD 6 0) (m.getD 7 0)).toNat)
    (hmax : m.length < 2 ^ 32) (h8 : 8 ≤ l.recv.size)
    (htake : (l.recv.content l.iterationGap).take 8 = m.take 8) :
    (getMessageSize l.front l.recv.size).toNat = m.length := by
  have hbyte (i : ℕ) (hi : i < 8) : l.front.getD i 0 = m.getD i 0 := by
    have h := congrArg (fun s : List UInt8 => s.getD i 0) htake
    simp only [List.getD_eq_getElem?_getD, List.getElem?_take_of_lt hi] at h
    rw [getD_front (by omega), List.getD_eq_getElem?_getD, h, List.getD_eq_getElem?_getD]
  rw [getMessageSize, if_pos (by rw [someipHeaderSize]; omega), hbyte 4 (by omega),
    hbyte 5 (by omega), hbyte 6 (by omega), hbyte 7 (by omega), UInt32.toNat_add]
  change (8 + _) % 2 ^ 32 = _
  rw [Nat.mod_eq_of_lt (by omega), ← hlen]

/-- The size of a message is known when its first eight bytes are pending. -/
lemma TcpMessage.getMessageSize_toNat (hm : TcpMessage cfg m) (hp : p <+: m) (h8 : 8 ≤ p.length)
    (hsize : l.recv.size = (p ++ x).length) (hc : l.recv.content l.iterationGap = p ++ x) :
    (getMessageSize l.front l.recv.size).toNat = m.length := by
  have hle : p.length ≤ l.recv.size := by rw [hsize, List.length_append]; omega
  have hmax := hm.max
  have hword := cfg.maxMessageSize.toNat_lt
  refine getMessageSize_toNat_of_take hm.length (by omega) (by omega) ?_
  obtain ⟨y, rfl⟩ := hp
  rw [hc, List.take_append_of_le_length h8, List.take_append_of_le_length h8]

/-- A message that is no cookie does not begin with one: a cookie says that it is complete. -/
lemma TcpMessage.take_ne_cookie (hm : TcpMessage cfg m) {cookie : List UInt8}
    (hcookie : cookie = clientCookie ∨ cookie = serviceCookie) : m.take 16 ≠ cookie := by
  intro h
  have hbyte (i : ℕ) (hi : i < 16) : m.getD i 0 = cookie.getD i 0 := by
    rw [← h]
    simp only [List.getD_eq_getElem?_getD, List.getElem?_take_of_lt hi]
  have hlen := hm.length
  rw [hbyte 4 (by omega), hbyte 5 (by omega), hbyte 6 (by omega), hbyte 7 (by omega)] at hlen
  have h16 : m.length = 16 := by
    rcases hcookie with rfl | rfl <;> exact hlen
  rw [List.take_of_length_le (by omega)] at h
  rcases hcookie with rfl | rfl
  · exact hm.not_client h
  · exact hm.not_service h

end Front

/-! ## Rounds -/

/-- What a round does with magic cookies disabled, on pending bytes that are a stream of messages:
a complete message in front is delivered and taken away; the beginning of a message leaves the
buffer alone and says that something is missing. -/
structure Rounds (cfg : RecvConfig) (round : TcpLoop → TcpLoop × TcpRound) : Prop where
  full : ∀ {l : TcpLoop} {m x : List UInt8}, l.magicCookiesEnabled = false → TcpMessage cfg m →
    l.recv.size = (m ++ x).length → l.recv.content l.iterationGap = m ++ x →
    ∃ events recv, round l =
        ({ l with
            recv, iterationGap := l.iterationGap + m.length, events := l.events ++ events },
          .again) ∧
      TcpEvent.messages events = [m] ∧ recv.buffer = l.recv.buffer ∧ recv.size = x.length
  part : ∀ {l : TcpLoop} {m p : List UInt8}, l.magicCookiesEnabled = false → TcpMessage cfg m →
    p <+: m → p.length < m.length → l.recv.size = p.length →
    l.recv.content l.iterationGap = p → ∃ n, n ≠ 0 ∧ round l = (l.miss n, .last)

section Rounds

variable {cfg : RecvConfig} {l : TcpLoop} {m p x : List UInt8}

/-- What the branch for a complete message can do: it takes bytes away and adds events. The cases are a
cookie, a message that is cut off in front of a cookie, and one that is handed on. -/
lemma fullMessage_cases (cfg : RecvConfig) (l : TcpLoop) (cookie : List UInt8)
    (requests lost : List TcpEvent) (n : ℕ) :
    ∃ recv enabled k events, l.fullMessage cfg cookie requests lost n =
        { l with
          recv, magicCookiesEnabled := enabled, iterationGap := l.iterationGap + k
          events := l.events ++ events } ∧
      recv.buffer = l.recv.buffer ∧ recv.size = l.recv.size - k ∧
      (l.isMagicCookie cookie = true ∧ enabled = true ∧ k = n ∧ events = requests ∨
        l.isMagicCookie cookie = false ∧ enabled = l.magicCookiesEnabled ∧
          ((l.magicCookiesEnabled = true ∧ findMagicCookie cookie l.front l.recv.size < n) ∧
              k = findMagicCookie cookie l.front l.recv.size ∧ events = lost ∨
            ¬ (l.magicCookiesEnabled = true ∧ findMagicCookie cookie l.front l.recv.size < n) ∧
              k = n ∧ events = requests ++ [.onMessage (l.front.take n)])) := by
  have hrecv (k : ℕ) :
      let recv := { l.recv.calculateShrinkCount cfg with missingCapacity := 0, size := l.recv.size - k }
      recv.buffer = l.recv.buffer ∧ recv.size = l.recv.size - k :=
    ⟨RecvBuffer.buffer_calculateShrinkCount cfg l.recv, rfl⟩
  cases hcookie : l.isMagicCookie cookie with
  | true =>
    refine ⟨_, true, n, requests, ?_, (hrecv n).1, (hrecv n).2, Or.inl ⟨rfl, rfl, rfl, rfl⟩⟩
    simp only [TcpLoop.fullMessage, hcookie, not_true, false_and, if_false, if_true, and_self,
      TcpLoop.emit, TcpLoop.skip, RecvBuffer.size_calculateShrinkCount]
  | false =>
    by_cases hcut : l.magicCookiesEnabled = true ∧ findMagicCookie cookie l.front l.recv.size < n
    · refine ⟨_, _, _, lost, ?_, (hrecv _).1, (hrecv _).2,
        Or.inr ⟨rfl, rfl, Or.inl ⟨hcut, rfl, rfl⟩⟩⟩
      simp only [TcpLoop.fullMessage, hcookie, Bool.false_eq_true, not_false_eq_true, if_false,
        true_and, if_pos hcut, TcpLoop.emit, TcpLoop.skip, RecvBuffer.size_calculateShrinkCount]
    · refine ⟨_, _, n, _, ?_, (hrecv n).1, (hrecv n).2, Or.inr ⟨rfl, rfl, Or.inr ⟨hcut, rfl, rfl⟩⟩⟩
      simp only [TcpLoop.fullMessage, hcookie, Bool.false_eq_true, not_false_eq_true, if_false,
        true_and, and_false, if_neg hcut, TcpLoop.emit, TcpLoop.skip,
        RecvBuffer.size_calculateShrinkCount]

/-- The branch for a complete message, for a message that is no cookie. -/
lemma fullMessage_eq (hoff : l.magicCookiesEnabled = false) (hm : TcpMessage cfg m)
    (hsize : l.recv.size = (m ++ x).length) (hc : l.recv.content l.iterationGap = m ++ x)
    {cookie : List UInt8} (hcookie : cookie = clientCookie ∨ cookie = serviceCookie)
    (requests lost : List TcpEvent) :
    ∃ recv, l.fullMessage cfg cookie requests lost m.length =
        { l with
          recv, iterationGap := l.iterationGap + m.length
          events := l.events ++ (requests ++ [.onMessage m]) } ∧
      recv.buffer = l.recv.buffer ∧ recv.size = x.length := by
  have hfront := take_front hsize hc
  have hnot : l.isMagicCookie cookie = false := by
    have h16 : l.front.take 16 = m.take 16 := by
      rw [← hfront, List.take_take, Nat.min_eq_left hm.full]
    rw [TcpLoop.isMagicCookie, h16]
    simpa using hm.take_ne_cookie hcookie
  rw [List.length_append] at hsize
  obtain ⟨recv, enabled, k, events, heq, hbuffer, hrecv, hcases⟩ :=
    fullMessage_cases cfg l cookie requests lost m.length
  rcases hcases with ⟨hyes, -⟩ | ⟨-, rfl, ⟨⟨hon, -⟩, -⟩ | ⟨-, rfl, rfl⟩⟩
  · exact absurd (hnot.symm.trans hyes) (by decide)
  · exact absurd (hoff.symm.trans hon) (by decide)
  · refine ⟨recv, ?_, hbuffer, by omega⟩
    rw [heq, hfront]

/-- The beginning of a message is not a complete one. -/
lemma not_full_of_part (hm : TcpMessage cfg m) (hp : p <+: m)
    (hsize : l.recv.size = p.length) (hc : l.recv.content l.iterationGap = p) :
    ((getMessageSize l.front l.recv.size).toNat = m.length ∧ 8 ≤ p.length) ∨
      (getMessageSize l.front l.recv.size = 0 ∧ p.length < 8) := by
  rcases Nat.lt_or_ge p.length 8 with h8 | h8
  · right
    refine ⟨?_, h8⟩
    rw [getMessageSize, if_neg (by rw [someipHeaderSize]; omega)]
  · left
    have hx : p ++ [] = p := List.append_nil p
    exact ⟨hm.getMessageSize_toNat hp h8 (by rw [hx, hsize]) (by rw [hx, hc]), h8⟩

/-- A size that is not above the maximum. -/
lemma exceeds_eq_false {n : UInt32} (hn : n.toNat ≤ cfg.maxMessageSize.toNat) :
    TcpLoop.exceeds cfg n = false := by
  have : ¬ n > cfg.maxMessageSize := by
    rw [gt_iff_lt, UInt32.lt_iff_toNat_lt]
    omega
  simp [TcpLoop.exceeds, this]

/-- No part of a message exceeds the maximum. -/
lemma not_exceeds (hm : TcpMessage cfg m) {n : UInt32} (hn : n.toNat ≤ m.length) :
    TcpLoop.exceeds cfg n = false :=
  exceeds_eq_false (hn.trans hm.max)

/-- What is missing of a message, in 32 bits. -/
lemma missing_ne_zero {a : UInt32} {n : ℕ} (h : n < a.toNat) : a - UInt32.ofNat n ≠ 0 := by
  have ha := a.toNat_lt
  intro h0
  have h1 := congrArg UInt32.toNat h0
  rw [UInt32.toNat_sub, UInt32.toNat_ofNat'] at h1
  change _ = 0 at h1
  omega

end Rounds

/-- The rounds of the server. -/
lemma TcpServer.rounds (cfg : RecvConfig) : Rounds cfg (TcpServer.round cfg) where
  full := by
    intro l m x hoff hm hsize hc
    have hcur := hm.getMessageSize_toNat (List.prefix_refl m) (by have := hm.full; omega) hsize hc
    obtain ⟨recv, hfull, hbuf, hrest⟩ := fullMessage_eq hoff hm hsize hc (Or.inl rfl)
      (TcpServer.requests l.front) [.onError (l.front.take l.recv.size)]
    refine ⟨TcpServer.requests l.front ++ [.onMessage m], recv, ?_, ?_, hbuf, hrest⟩
    · have h16 := hm.full
      rw [List.length_append] at hsize
      simp only [TcpServer.round, hcur]
      rw [if_pos ⟨by rw [someipHeaderSize]; omega, by omega⟩, hfull]
    · unfold TcpServer.requests
      split_ifs <;> rfl
  part := by
    intro l m p hoff hm hp hlt hsize hc
    have hresync : TcpServer.resync l = none := by
      rw [TcpServer.resync, if_neg (by simp [hoff])]
    simp only [TcpServer.round, hresync]
    rcases not_full_of_part hm hp hsize hc with ⟨hcur, h8⟩ | ⟨hcur, h8⟩
    · rw [if_neg (by omega), not_exceeds hm (by omega), if_neg (by simp), if_pos (by omega)]
      exact ⟨_, missing_ne_zero (by omega), rfl⟩
    · rw [hcur, if_neg (by simp [someipHeaderSize]), not_exceeds hm (Nat.zero_le _),
        if_neg (by simp), if_neg (by simp), if_pos (by rw [someipHeaderSize]; omega)]
      exact ⟨_, missing_ne_zero (show l.recv.size < 8 by omega), rfl⟩

/-- The rounds of the client. -/
lemma TcpClient.rounds (cfg : RecvConfig) : Rounds cfg (TcpClient.round cfg) where
  full := by
    intro l m x hoff hm hsize hc
    have hcur := hm.getMessageSize_toNat (List.prefix_refl m) (by have := hm.full; omega) hsize hc
    obtain ⟨recv, hfull, hbuf, hrest⟩ := fullMessage_eq hoff hm hsize hc (Or.inr rfl) [] []
    refine ⟨[.onMessage m], recv, ?_, rfl, hbuf, hrest⟩
    have h16 := hm.full
    rw [List.length_append] at hsize
    simp only [TcpClient.round, hcur]
    rw [if_pos ⟨by rw [someipHeaderSize]; omega, by omega⟩, hfull]
    rfl
  part := by
    intro l m p hoff hm hp hlt hsize hc
    simp only [TcpClient.round]
    rcases not_full_of_part hm hp hsize hc with ⟨hcur, h8⟩ | ⟨hcur, h8⟩
    · rw [if_neg (by omega), not_exceeds hm (by omega), if_neg (by simp), if_pos (by omega)]
      exact ⟨_, missing_ne_zero (by omega), rfl⟩
    · rw [hcur, if_neg (by simp [someipHeaderSize]), not_exceeds hm (Nat.zero_le _),
        if_neg (by simp), if_neg (by simp), if_pos (by rw [someipHeaderSize]; omega)]
      exact ⟨_, missing_ne_zero (show l.recv.size < 8 by omega), rfl⟩

/-! ## The loop -/

section Loop

variable {cfg : RecvConfig} {round : TcpLoop → TcpLoop × TcpRound}

/-- The messages of two lists of events. -/
lemma messages_append (a b : List TcpEvent) :
    TcpEvent.messages (a ++ b) = TcpEvent.messages a ++ TcpEvent.messages b :=
  List.filterMap_append

/-- The beginning of a message, or nothing. -/
def TcpPart (cfg : RecvConfig) (p : List UInt8) : Prop :=
  p = [] ∨ ∃ m, TcpMessage cfg m ∧ p <+: m ∧ p.length < m.length

/-- What the loop leaves behind: the rest `p` of the stream is pending, and room for it was asked
for if there is a rest. -/
structure Looped (l l' : TcpLoop) (ms : List (List UInt8)) (p : List UInt8) : Prop where
  messages : TcpEvent.messages l'.events = TcpEvent.messages l.events ++ ms
  cookies : l'.magicCookiesEnabled = false
  buffer : l'.recv.buffer = l.recv.buffer
  size : l'.recv.size = p.length
  content : l'.recv.content l'.iterationGap = p
  gap : l'.iterationGap + l'.recv.size = l.iterationGap + l.recv.size
  missing : p = [] ∨ l'.recv.missingCapacity ≠ 0

/-- The loop delivers the complete messages and leaves the rest pending.

**Proof sketch.** Induction on the complete messages. A round takes the first one away; the loop
goes on if bytes are left. When no complete message is left, the rest is the beginning of one, and
the round for it is the last. -/
lemma tcpLoop_eq (h : Rounds cfg round) : ∀ (ms : List (List UInt8)) (fuel : ℕ) (l : TcpLoop)
    (p : List UInt8), (∀ m ∈ ms, TcpMessage cfg m) → TcpPart cfg p →
    l.magicCookiesEnabled = false → l.recv.size = (ms.flatten ++ p).length →
    l.recv.content l.iterationGap = ms.flatten ++ p →
    l.iterationGap + l.recv.size ≤ l.recv.buffer.length → 0 < l.recv.size → l.recv.size < fuel →
    ∃ l', tcpLoop round fuel l = (l', false) ∧ Looped l l' ms p := by
  intro ms
  induction ms with
  | nil =>
    intro fuel l p _ hp hoff hsize hc _ hpos hfuel
    obtain ⟨fuel, rfl⟩ : ∃ k, fuel = k + 1 := ⟨fuel - 1, by omega⟩
    simp only [List.flatten_nil, List.nil_append] at hsize hc
    rcases hp with rfl | ⟨m, hm, hpre, hlt⟩
    · simp at hsize; omega
    obtain ⟨n, hn, hround⟩ := h.part hoff hm hpre hlt hsize hc
    refine ⟨l.miss n, by rw [tcpLoop, hround], ?_⟩
    exact ⟨by simp [TcpLoop.miss], hoff, rfl, hsize, hc, rfl, Or.inr hn⟩
  | cons m ms ih =>
    intro fuel l p hms hp hoff hsize hc hfit hpos hfuel
    obtain ⟨fuel, rfl⟩ : ∃ k, fuel = k + 1 := ⟨fuel - 1, by omega⟩
    have hm := hms m List.mem_cons_self
    have h16 := hm.full
    rw [List.flatten_cons, List.append_assoc] at hsize hc
    obtain ⟨events, recv, hround, hev, hbuf, hrest⟩ := h.full hoff hm hsize hc
    have hlen : l.recv.size = m.length + (ms.flatten ++ p).length := by
      rw [hsize, List.length_append]
    have hcont : recv.content (l.iterationGap + m.length) = ms.flatten ++ p :=
      RecvBuffer.content_add hsize hc hbuf hrest
    set l₁ : TcpLoop := { l with
      recv, iterationGap := l.iterationGap + m.length, events := l.events ++ events } with hl₁
    have hmsg : TcpEvent.messages l₁.events = TcpEvent.messages l.events ++ [m] := by
      rw [← hev, ← messages_append]
    by_cases hzero : recv.size = 0
    · -- the stream ends with this message
      have hnil : ms.flatten ++ p = [] := List.length_eq_zero_iff.mp (by omega)
      obtain ⟨hflat, rfl⟩ := List.append_eq_nil_iff.mp hnil
      have hms' : ms = [] := by
        cases ms with
        | nil => rfl
        | cons m' ms =>
          have h16' := (hms m' (by simp)).full
          rw [List.flatten_cons, List.append_eq_nil_iff] at hflat
          rw [hflat.1] at h16'
          simp at h16'
      subst hms'
      refine ⟨l₁, ?_, hmsg, hoff, hbuf, hzero, by simpa using hcont, ?_, Or.inl rfl⟩
      · rw [tcpLoop, hround]
        exact if_neg (by simpa using hzero)
      · change l.iterationGap + m.length + recv.size = _
        omega
    · obtain ⟨l', hloop, hl'⟩ := ih fuel l₁ p (fun m' hm' => hms m' (List.mem_cons_of_mem m hm')) hp
        hoff hrest hcont (by
          change l.iterationGap + m.length + recv.size ≤ recv.buffer.length
          rw [hbuf]
          omega) (Nat.pos_of_ne_zero hzero) (show recv.size < fuel by omega)
      refine ⟨l', ?_, ?_, hl'.cookies, hl'.buffer.trans hbuf, hl'.size, hl'.content, ?_,
        hl'.missing⟩
      · rw [tcpLoop, hround]
        exact (if_pos hzero).trans hloop
      · rw [hl'.messages, hmsg, List.append_assoc, List.singleton_append]
      · rw [hl'.gap]
        change l.iterationGap + m.length + recv.size = _
        omega

/-- A receiver that waits behind the beginning `p` of a message, with magic cookies disabled. -/
structure TcpReceiver.Pending (r : TcpReceiver) (p : List UInt8) : Prop where
  ready : r.recv.Ready p
  cookies : r.magicCookiesEnabled = false
  receiving : r.receiving = true
  offered : 0 < r.recv.offered

/-- The chunks that the socket can hand to a receiver. -/
def TcpReceiver.Accepts (r : TcpReceiver) (c : List UInt8) : Prop :=
  r.receiving = true ∧ c ≠ [] ∧ c.length ≤ r.recv.offered

/-- A chunk delivers the messages it completes. -/
lemma tcpReceived_eq (h : Rounds cfg round) {r : TcpReceiver} {p c p' : List UInt8}
    {ms : List (List UInt8)} (hr : r.Pending p) (hacc : r.Accepts c)
    (hms : ∀ m ∈ ms, TcpMessage cfg m) (hp' : TcpPart cfg p') (hcat : p ++ c = ms.flatten ++ p') :
    TcpEvent.messages (tcpReceived cfg round r c).2 = ms ∧
      (tcpReceived cfg round r c).1.Pending p' := by
  obtain ⟨-, hne, hlen⟩ := hacc
  obtain ⟨hc, hsize, hfit⟩ := hr.ready.store hlen
  have hpos : 0 < c.length := List.length_pos_iff.mpr hne
  rw [hcat] at hc hsize
  set recv := r.recv.store c with hrecv
  have hsizepos : 0 < recv.size := by
    change 0 < r.recv.size + c.length
    omega
  obtain ⟨l', hloop, hl'⟩ := tcpLoop_eq h ms (recv.size + 1)
    { recv, magicCookiesEnabled := r.magicCookiesEnabled, iterationGap := 0, events := [] } p'
    hms hp' hr.cookies hsize hc (by simpa using hfit) hsizepos (by simp)
  have hgap : l'.iterationGap + l'.recv.size ≤ l'.recv.buffer.length := by
    rw [hl'.gap, hl'.buffer]
    simpa using hfit
  have hmiss : l'.recv.missingCapacity ≠ 0 ∨ l'.recv.size < l'.recv.buffer.length := by
    rcases hl'.missing with rfl | hmiss
    · right
      rw [hl'.size, hl'.buffer]
      exact lt_of_lt_of_le hsizepos hfit
    · exact Or.inl hmiss
  have hrun : tcpReceived cfg round r c =
      ({ recv := (if l'.iterationGap ≠ 0 then l'.recv.shift l'.iterationGap
          else l'.recv).receive cfg,
         magicCookiesEnabled := l'.magicCookiesEnabled, receiving := true }, l'.events) := by
    simp only [tcpReceived, ← hrecv, hloop]
    rfl
  rw [hrun]
  refine ⟨hl'.messages, ?_⟩
  split_ifs with h0
  · have hready := RecvBuffer.ready_receive cfg (b := l'.recv.shift l'.iterationGap) (by
      rw [RecvBuffer.length_buffer_shift hgap]
      exact le_trans (Nat.le_add_left _ _) hgap)
    rw [RecvBuffer.content_shift hgap, hl'.content] at hready
    exact ⟨hready, hl'.cookies, rfl,
      RecvBuffer.offered_receive_pos cfg (RecvBuffer.shift_missing hgap hmiss)⟩
  · have h0' : l'.iterationGap = 0 := by simpa using h0
    have hready := RecvBuffer.ready_receive cfg (b := l'.recv) (by omega)
    have hcont := hl'.content
    rw [h0'] at hcont
    rw [hcont] at hready
    exact ⟨hready, hl'.cookies, rfl, RecvBuffer.offered_receive_pos cfg hmiss⟩

end Loop

/-! ## Both endpoints -/

/-- The server as a receiver of chunks. -/
def TcpServer.step (cfg : RecvConfig) (r : TcpReceiver) (c : List UInt8) :
    TcpReceiver × List (List UInt8) :=
  ((TcpServer.receiveCbk cfg r .success c).1,
    TcpEvent.messages (TcpServer.receiveCbk cfg r .success c).2)

/-- The client as a receiver of chunks. -/
def TcpClient.step (cfg : RecvConfig) (r : TcpReceiver) (c : List UInt8) :
    TcpReceiver × List (List UInt8) :=
  ((TcpClient.receiveCbk cfg r .success c).1,
    TcpEvent.messages (TcpClient.receiveCbk cfg r .success c).2)

/-- The TCP server reassembles the messages that are sent to it. -/
lemma TcpServer.reassembles (cfg : RecvConfig) :
    Framing.Reassembles (TcpServer.step cfg) id (TcpMessage cfg) (fun _ => True)
      TcpReceiver.Accepts TcpReceiver.Pending where
  step_eq := by
    intro r p c ms p' hr hacc hms hp' _ hcat
    rw [List.map_id] at hcat
    have hcbk : TcpServer.receiveCbk cfg r .success c =
        tcpReceived cfg (TcpServer.round cfg) r c := by
      rw [TcpServer.receiveCbk, if_pos ⟨rfl, hacc.2.1⟩]
    simp only [TcpServer.step, hcbk]
    exact tcpReceived_eq (TcpServer.rounds cfg) hr hacc hms hp' hcat

/-- The TCP client reassembles the messages that are sent to it. -/
lemma TcpClient.reassembles (cfg : RecvConfig) :
    Framing.Reassembles (TcpClient.step cfg) id (TcpMessage cfg) (fun _ => True)
      TcpReceiver.Accepts TcpReceiver.Pending where
  step_eq := by
    intro r p c ms p' hr hacc hms hp' _ hcat
    rw [List.map_id] at hcat
    have hmissing : ({ r with recv := { r.recv with missingCapacity := 0 } } : TcpReceiver) = r := by
      rw [← hr.ready.missing]
    have hcbk : TcpClient.receiveCbk cfg r .success c =
        tcpReceived cfg (TcpClient.round cfg) r c := by
      rw [TcpClient.receiveCbk, if_neg (by decide), if_pos ⟨rfl, hacc.2.1⟩, hmissing]
    simp only [TcpClient.step, hcbk]
    exact tcpReceived_eq (TcpClient.rounds cfg) hr hacc hms hp' hcat

/-- A new receiver with magic cookies disabled waits for its first message. -/
lemma pending_start (cfg : RecvConfig) :
    (TcpServer.start cfg false).Pending [] ∧ (TcpClient.start cfg false).Pending [] := by
  have hlen : (RecvBuffer.init cfg).size < (RecvBuffer.init cfg).buffer.length := by
    simpa [RecvBuffer.init] using cfg.initialSize_pos
  have h : (TcpServer.start cfg false).Pending [] :=
    ⟨RecvBuffer.ready_init cfg, rfl, rfl, RecvBuffer.offered_receive_pos cfg (Or.inr hlen)⟩
  exact ⟨h, h⟩

/-- Both TCP endpoints deliver exactly the messages of a stream, in order, however the socket cuts
it: the cut `cs` of the server and the cut `ds` of the client need not be the same. -/
theorem tcp_delivers (server client : RecvConfig) (ms : List (List UInt8))
    (hserver : ∀ m ∈ ms, TcpMessage server m) (hclient : ∀ m ∈ ms, TcpMessage client m)
    (cs ds : List (List UInt8))
    (hcs : Framing.Cut (TcpServer.step server) TcpReceiver.Accepts (TcpServer.start server false) cs)
    (hds : Framing.Cut (TcpClient.step client) TcpReceiver.Accepts (TcpClient.start client false) ds)
    (hcscat : cs.flatten = ms.flatten) (hdscat : ds.flatten = ms.flatten) :
    (Framing.run (TcpServer.step server) (TcpServer.start server false) cs).2 = ms ∧
      (Framing.run (TcpClient.step client) (TcpClient.start client false) ds).2 = ms := by
  have hne : ∀ m ∈ ms, id m ≠ [] := by
    intro m hm h
    have h16 := (hserver m hm).full
    rw [show m = [] from h] at h16
    simp at h16
  constructor
  · exact (TcpServer.reassembles server).run_eq (pending_start server).1 hserver hne hcs
      (by rw [hcscat, List.map_id])
  · exact (TcpClient.reassembles client).run_eq (pending_start client).2 hclient hne hds
      (by rw [hdscat, List.map_id])

/-- The constants of a connection of the server without a limit. -/
def TcpServer.unlimited : RecvConfig :=
  { initialSize := TcpServer.initialSize, shrinkThreshold := 5,
    maxMessageSize := messageSizeUnlimited, initialSize_pos := by decide }

/-- The constants of a client without a limit. -/
def TcpClient.unlimited : RecvConfig :=
  { initialSize := TcpClient.initialSize, shrinkThreshold := 5,
    maxMessageSize := messageSizeUnlimited, initialSize_pos := by decide }

/-- A request without payload. -/
def requestMessage : List UInt8 :=
  [0x12, 0x34, 0x00, 0x01, 0x00, 0x00, 0x00, 0x08, 0x13, 0x13, 0x00, 0x01, 0x01, 0x00, 0x00, 0x00]

/-- Two requests arrive at the server in chunks of 5, 3, 8 and 16 bytes, and at the client in chunks
of 8 bytes. -/
theorem tcp_delivers_requestMessage :
    (Framing.run (TcpServer.step TcpServer.unlimited) (TcpServer.start TcpServer.unlimited false)
      [requestMessage.take 5, (requestMessage.drop 5).take 3, requestMessage.drop 8,
        requestMessage]).2 = [requestMessage, requestMessage] ∧
    (Framing.run (TcpClient.step TcpClient.unlimited) (TcpClient.start TcpClient.unlimited false)
      [requestMessage.take 8, requestMessage.drop 8, requestMessage.take 8,
        requestMessage.drop 8]).2 = [requestMessage, requestMessage] := by
  refine tcp_delivers TcpServer.unlimited TcpClient.unlimited [requestMessage, requestMessage]
    ?_ ?_ _ _ ?_ ?_ (by decide) (by decide)
  · intro m hm
    rw [show m = requestMessage by simpa using hm]
    exact ⟨by decide, by decide, by decide, by decide, by decide⟩
  · intro m hm
    rw [show m = requestMessage by simpa using hm]
    exact ⟨by decide, by decide, by decide, by decide, by decide⟩
  · exact ⟨⟨by decide, by decide, by decide⟩, ⟨by decide, by decide, by decide⟩,
      ⟨by decide, by decide, by decide⟩, ⟨by decide, by decide, by decide⟩, trivial⟩
  · exact ⟨⟨by decide, by decide, by decide⟩, ⟨by decide, by decide, by decide⟩,
      ⟨by decide, by decide, by decide⟩, ⟨by decide, by decide, by decide⟩, trivial⟩

end Vsomeip
