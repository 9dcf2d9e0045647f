import Vsomeip.Endpoints.TcpFraming
import Vsomeip.Lib.Runs

set_option relaxedAutoImplicit false
set_option autoImplicit false

/-!
# Room in the receive buffers

A TCP endpoint that waits for its socket must offer it a part of the buffer that is not empty and lies
behind the pending bytes. The server always does, whatever bytes arrive. The client does not if magic
cookies are enabled and the buffer is filled to its end with bytes that are neither the beginning of a
message nor contain a cookie: nothing is missing then, and no room is left.

## Main definitions

* `Vsomeip.TcpReceiver.step` — a callback with the bytes that the socket can write.
* `Vsomeip.TcpReceiver.HasRoom` — the pending bytes are in the buffer, and there is room for more.
* `Vsomeip.TcpClient.Stuck` — the callback after which the client has no room.
* `Vsomeip.KeepsRoom` — what all that needs of a round.

## Main results

* `Vsomeip.KeepsRoom.roomy_tcpLoop` — the loop leaves room.
* `Vsomeip.TcpReceiver.hasRoom_along_iff` — both endpoints have room at all times, if the client does
  not get stuck.
-/

namespace Vsomeip

/-- A callback with an error and the bytes that the socket has written, at most as many as it was
offered. There is no callback unless the receiver waits. -/
def TcpReceiver.step
    (receiveCbk : TcpReceiver → ErrorCode → List UInt8 → TcpReceiver × List TcpEvent)
    (r : TcpReceiver) (a : ErrorCode × List UInt8) : TcpReceiver :=
  if r.receiving then (receiveCbk r a.1 (a.2.take r.recv.offered)).1 else r

/-- The pending bytes are in the buffer. A receiver that waits offers the socket a part of the buffer
behind them, and at least one byte. -/
def TcpReceiver.HasRoom (r : TcpReceiver) : Prop :=
  r.recv.size ≤ r.recv.buffer.length ∧
    (r.receiving = true → 0 < r.recv.offered ∧ r.recv.size + r.recv.offered ≤ r.recv.buffer.length)

/-- The client finds neither the size of a message nor a cookie. -/
def TcpClient.Lost (cfg : RecvConfig) (l : TcpLoop) : Prop :=
  let currentMessageSize := getMessageSize l.front l.recv.size
  someipHeaderSize ≤ l.recv.size ∧ currentMessageSize.toNat ≤ someipHeaderSize ∧
    TcpLoop.exceeds cfg currentMessageSize = false ∧ l.magicCookiesEnabled = true ∧
    l.recv.size ≤ findMagicCookie serviceCookie l.front l.recv.size

/-- The received bytes fill the buffer of the client to its end, and it is lost in them. -/
def TcpClient.Stuck (cfg : RecvConfig) (r : TcpReceiver) (a : ErrorCode × List UInt8) : Prop :=
  let bytes := a.2.take r.recv.offered
  let recv := r.recv.store bytes
  r.receiving = true ∧ a.1 = .success ∧ bytes ≠ [] ∧ recv.size = recv.buffer.length ∧
    TcpClient.Lost cfg
      { recv, magicCookiesEnabled := r.magicCookiesEnabled, iterationGap := 0, events := [] }

/-! ## Cookies -/

section Cookie

variable {cookie data : List UInt8} {size : ℕ}

/-- A cookie that is found at the front stands there. -/
lemma eq_cookie_of_findMagicCookie_eq_zero (h : findMagicCookie cookie data size = 0) :
    data.take 16 = cookie ∧ 16 < size := by
  rw [findMagicCookie] at h
  cases hfind : (List.range (size - 16)).find? fun offset =>
      (data.drop offset).take 16 == cookie with
  | none =>
    rw [hfind] at h
    exact absurd h (by decide)
  | some offset =>
    rw [hfind, Option.getD_some] at h
    subst h
    have htake := List.find?_some hfind
    have hmem := List.mem_range.mp (List.mem_of_find?_eq_some hfind)
    exact ⟨by simpa using htake, by omega⟩

/-- A cookie at the front is a complete message. -/
lemma getMessageSize_of_cookie (hcookie : cookie = clientCookie ∨ cookie = serviceCookie)
    (h : data.take 16 = cookie) (hsize : 8 ≤ size) : getMessageSize data size = 16 := by
  have hbyte (i : ℕ) (hi : i < 16) : data.getD i 0 = cookie.getD i 0 := by
    rw [← h]
    simp only [List.getD_eq_getElem?_getD, List.getElem?_take_of_lt hi]
  rw [getMessageSize, someipHeaderSize, if_pos hsize, hbyte 4 (by omega), hbyte 5 (by omega),
    hbyte 6 (by omega), hbyte 7 (by omega)]
  rcases hcookie with rfl | rfl <;> decide

/-- If no complete message is in front, then no cookie is found there. -/
lemma findMagicCookie_pos (hcookie : cookie = clientCookie ∨ cookie = serviceCookie)
    (h : ¬ ((getMessageSize data size).toNat > someipHeaderSize ∧
      (getMessageSize data size).toNat ≤ size)) : 0 < findMagicCookie cookie data size := by
  refine Nat.pos_of_ne_zero fun h0 => h ?_
  obtain ⟨hfront, hlt⟩ := eq_cookie_of_findMagicCookie_eq_zero h0
  rw [getMessageSize_of_cookie hcookie hfront (by omega)]
  exact ⟨by decide, hlt.le⟩

end Cookie

/-! ## Rounds -/

/-- The pending bytes are in the buffer. -/
def TcpLoop.Fits (l : TcpLoop) : Prop := l.iterationGap + l.recv.size ≤ l.recv.buffer.length

/-- The loop may end here: nothing is pending, or room was asked for, or there is some. -/
def TcpLoop.Roomy (l : TcpLoop) : Prop :=
  l.recv.size = 0 ∧ 0 < l.recv.buffer.length ∨
    l.Fits ∧ (l.recv.missingCapacity ≠ 0 ∨ l.recv.size < l.recv.buffer.length)

/-- What a round does to the pending bytes: it takes some of them away, or it is the last one and
leaves room, unless the endpoint is lost. -/
def TcpLoop.Ends (Lost : TcpLoop → Prop) (l l' : TcpLoop) : TcpRound → Prop
  | .again => l'.recv.buffer = l.recv.buffer ∧
      l'.iterationGap + l'.recv.size = l.iterationGap + l.recv.size ∧ l'.recv.size < l.recv.size
  | .last => l'.Roomy ∨ l' = l ∧ Lost l
  | .stop => l'.recv.size ≤ l'.recv.buffer.length

/-- Every round keeps or makes room, unless the endpoint is lost. -/
def KeepsRoom (round : TcpLoop → TcpLoop × TcpRound) (Lost : TcpLoop → Prop) : Prop :=
  ∀ l : TcpLoop, l.Fits → l.Ends Lost (round l).1 (round l).2

section Branches

variable {cfg : RecvConfig} {l : TcpLoop}

/-- The branch for a complete message takes bytes away: there is no cookie in front of a message that
is cut off. -/
lemma fullMessage_spec (cookie : List UInt8) (requests lost : List TcpEvent) {n : ℕ} (hn : 0 < n)
    (hle : n ≤ l.recv.size) :
    let l' := l.fullMessage cfg cookie requests lost n
    l'.recv.buffer = l.recv.buffer ∧
      l'.iterationGap + l'.recv.size = l.iterationGap + l.recv.size ∧ l'.recv.size < l.recv.size := by
  have hoffset : l.isMagicCookie cookie = false → 0 < findMagicCookie cookie l.front l.recv.size :=
    fun hnot => Nat.pos_of_ne_zero fun h0 => by
      simp [TcpLoop.isMagicCookie, (eq_cookie_of_findMagicCookie_eq_zero h0).1] at hnot
  obtain ⟨recv, enabled, k, events, heq, hbuffer, hrecv, hcases⟩ :=
    fullMessage_cases cfg l cookie requests lost n
  have hk : 0 < k ∧ k ≤ l.recv.size := by
    rcases hcases with ⟨-, -, rfl, -⟩ | ⟨hnot, -, ⟨⟨-, hlt⟩, rfl, -⟩ | ⟨-, rfl, -⟩⟩
    · exact ⟨hn, hle⟩
    · exact ⟨hoffset hnot, by omega⟩
    · exact ⟨hn, hle⟩
  simp only [heq]
  exact ⟨hbuffer, by omega, by omega⟩

/-- After a message that is too large nothing is pending. -/
lemma roomy_reset (cfg : RecvConfig) (l : TcpLoop) : (l.reset cfg).Roomy := by
  left
  refine ⟨rfl, ?_⟩
  rw [TcpLoop.reset, RecvBuffer.length_buffer_resize]
  exact cfg.initialSize_pos

/-- To ask for what is missing makes room. -/
lemma roomy_miss (hfits : l.Fits) {n : UInt32} (hn : n ≠ 0) : (l.miss n).Roomy :=
  Or.inr ⟨hfits, Or.inl hn⟩

/-- The server takes away what is in front of a cookie. -/
lemma TcpServer.resync_spec {l' : TcpLoop} (hfull : ¬ ((getMessageSize l.front l.recv.size).toNat >
      someipHeaderSize ∧ (getMessageSize l.front l.recv.size).toNat ≤ l.recv.size))
    (h : TcpServer.resync l = some l') : l'.recv.buffer = l.recv.buffer ∧
      l'.iterationGap + l'.recv.size = l.iterationGap + l.recv.size ∧ l'.recv.size < l.recv.size := by
  have hpos := findMagicCookie_pos (Or.inl rfl) hfull
  rw [TcpServer.resync] at h
  dsimp only at h
  by_cases hfound : l.magicCookiesEnabled ∧ l.recv.size > 0 ∧
      findMagicCookie clientCookie l.front l.recv.size < l.recv.size
  · rw [if_pos hfound, Option.some.injEq] at h
    rw [← h]
    simp only [TcpLoop.emit, TcpLoop.skip]
    exact ⟨trivial, by omega, by omega⟩
  · rw [if_neg hfound] at h
    exact absurd h (by simp)

end Branches

/-- The rounds of the server. It gives up where the client is lost. -/
lemma TcpServer.keepsRoom (cfg : RecvConfig) : KeepsRoom (TcpServer.round cfg) fun _ => False := by
  intro l hfits
  rw [TcpServer.round]
  by_cases hfull : (getMessageSize l.front l.recv.size).toNat > someipHeaderSize ∧
      (getMessageSize l.front l.recv.size).toNat ≤ l.recv.size
  · rw [if_pos hfull]
    exact fullMessage_spec _ _ _ (by omega) hfull.2
  rw [if_neg hfull]
  cases hresync : TcpServer.resync l with
  | some l' => exact TcpServer.resync_spec hfull hresync
  | none =>
    dsimp only
    split_ifs with hexceeds henabled hpart hheader
    · exact Or.inl (roomy_reset cfg l)
    · exact Nat.zero_le _
    · exact Or.inl (roomy_miss hfits (missing_ne_zero hpart))
    · exact Or.inl (roomy_miss hfits (missing_ne_zero (a := 8) hheader))
    · exact le_trans (Nat.le_add_left _ _) hfits

/-- The rounds of the client. -/
lemma TcpClient.keepsRoom (cfg : RecvConfig) :
    KeepsRoom (TcpClient.round cfg) (TcpClient.Lost cfg) := by
  intro l hfits
  rw [TcpClient.round]
  dsimp only
  split_ifs with hfull hexceeds henabled hpart hheader hcookies hfound
  · exact fullMessage_spec _ _ _ (by omega) hfull.2
  · exact Or.inl (roomy_reset cfg l)
  · exact Nat.zero_le _
  · exact Or.inl (roomy_miss hfits (missing_ne_zero hpart))
  · exact Or.inl (roomy_miss hfits (missing_ne_zero (a := 8) hheader))
  · have hpos := findMagicCookie_pos (Or.inr rfl) hfull
    simp only [TcpLoop.Ends, TcpLoop.skip]
    exact ⟨trivial, by omega, by omega⟩
  · exact Or.inr ⟨rfl, by omega, by omega, by simpa using hexceeds, hcookies.1, by omega⟩
  · exact le_trans (Nat.le_add_left _ _) hfits

/-! ## The loop -/

section Loop

variable {cfg : RecvConfig} {round : TcpLoop → TcpLoop × TcpRound} {Lost : TcpLoop → Prop}

/-- Where bytes were taken away, there is room in front of the others. -/
lemma TcpLoop.Ends.roomy {l l' : TcpLoop} (hfits : l.Fits) (h : l.Ends Lost l' .again) :
    l'.Fits ∧ l'.Roomy := by
  obtain ⟨hbuffer, hgap, hlt⟩ := h
  have hfits' : l'.Fits := by rwa [TcpLoop.Fits, hbuffer, hgap]
  refine ⟨hfits', Or.inr ⟨hfits', Or.inr ?_⟩⟩
  rw [TcpLoop.Fits] at hfits
  rw [hbuffer]
  omega

/-- The loop leaves room, unless the endpoint is lost at its beginning.

**Proof sketch.** Induction on the fuel. A round that goes on has taken bytes away, so that there is
room from then on. -/
lemma KeepsRoom.roomy_tcpLoop (h : KeepsRoom round Lost) {fuel : ℕ} {l l' : TcpLoop} {stopped : Bool}
    (hfits : l.Fits) (hfuel : l.recv.size < fuel) (hloop : tcpLoop round fuel l = (l', stopped)) :
    if stopped then l'.recv.size ≤ l'.recv.buffer.length else l'.Roomy ∨ l' = l ∧ Lost l := by
  induction fuel generalizing l with
  | zero => omega
  | succ fuel ih =>
    have hends := h l hfits
    rw [tcpLoop] at hloop
    rcases hround : round l with ⟨l₁, _ | _ | _⟩
    · rw [hround] at hloop hends
      obtain ⟨hfits₁, hroomy₁⟩ := hends.roomy hfits
      dsimp only at hloop
      split_ifs at hloop with hpending
      · have hlt : l₁.recv.size < l.recv.size := hends.2.2
        have hrest := ih hfits₁ (lt_of_lt_of_le hlt (Nat.lt_succ_iff.mp hfuel)) hloop
        cases stopped with
        | true => exact hrest
        | false =>
          rcases hrest with hroomy | ⟨rfl, -⟩
          · exact Or.inl hroomy
          · exact Or.inl hroomy₁
      · obtain ⟨rfl, rfl⟩ := Prod.mk.inj hloop
        exact Or.inl hroomy₁
    · rw [hround] at hloop hends
      obtain ⟨rfl, rfl⟩ := Prod.mk.inj hloop
      exact hends
    · rw [hround] at hloop hends
      obtain ⟨rfl, rfl⟩ := Prod.mk.inj hloop
      exact hends

/-- When the rest is moved to the front, the room stays. -/
lemma TcpLoop.Roomy.shift {l : TcpLoop} (h : l.Roomy) :
    let recv := if l.iterationGap ≠ 0 then l.recv.shift l.iterationGap else l.recv
    recv.size ≤ recv.buffer.length ∧ (recv.missingCapacity ≠ 0 ∨ recv.size < recv.buffer.length) := by
  dsimp only
  rcases h with ⟨hempty, hbuffer⟩ | ⟨hfits, hroom⟩
  · have hshift : (l.recv.shift l.iterationGap).buffer = l.recv.buffer := by
      simp [RecvBuffer.shift, hempty]
    have hsize : (l.recv.shift l.iterationGap).size = 0 := hempty
    split_ifs
    · rw [hsize, hshift]
      exact ⟨Nat.zero_le _, Or.inr hbuffer⟩
    · rw [hempty]
      exact ⟨Nat.zero_le _, Or.inr hbuffer⟩
  · have hle : l.recv.size ≤ l.recv.buffer.length := le_trans (Nat.le_add_left _ _) hfits
    split_ifs
    · refine ⟨?_, RecvBuffer.shift_missing hfits hroom⟩
      rw [RecvBuffer.length_buffer_shift hfits]
      exact hle
    · exact ⟨hle, hroom⟩

/-- A receiver has room when it waits again. -/
lemma TcpReceiver.hasRoom_receive {recv : RecvBuffer} (hle : recv.size ≤ recv.buffer.length)
    (hroom : recv.missingCapacity ≠ 0 ∨ recv.size < recv.buffer.length) (enabled receiving : Bool) :
    TcpReceiver.HasRoom ⟨recv.receive cfg, enabled, receiving⟩ := by
  have hready := RecvBuffer.ready_receive cfg hle
  refine ⟨le_trans (Nat.le_add_right _ _) hready.room, fun _ => ?_⟩
  exact ⟨RecvBuffer.offered_receive_pos cfg hroom, hready.room⟩

/-- Received bytes leave room, unless the endpoint is lost in a buffer that they fill. -/
lemma KeepsRoom.hasRoom_tcpReceived (h : KeepsRoom round Lost) {r : TcpReceiver} {bytes : List UInt8}
    (hfit : r.recv.size + bytes.length ≤ r.recv.buffer.length)
    (hlost : Lost ⟨r.recv.store bytes, r.magicCookiesEnabled, 0, []⟩ →
      (r.recv.store bytes).size < (r.recv.store bytes).buffer.length) :
    (tcpReceived cfg round r bytes).1.HasRoom := by
  have hle : (r.recv.store bytes).size ≤ (r.recv.store bytes).buffer.length := by
    rw [RecvBuffer.length_buffer_store hfit]
    exact hfit
  have hfits : TcpLoop.Fits ⟨r.recv.store bytes, r.magicCookiesEnabled, 0, []⟩ := by
    simpa [TcpLoop.Fits] using hle
  rcases hloop : tcpLoop round ((r.recv.store bytes).size + 1)
    ⟨r.recv.store bytes, r.magicCookiesEnabled, 0, []⟩ with ⟨l, stopped⟩
  have hend := h.roomy_tcpLoop hfits (Nat.lt_succ_self _) hloop
  simp only [tcpReceived, hloop]
  cases stopped with
  | true => exact ⟨hend, fun hreceiving => absurd hreceiving Bool.false_ne_true⟩
  | false =>
    have hroomy : l.Roomy := by
      rcases hend with hroomy | ⟨rfl, hl⟩
      · exact hroomy
      · exact Or.inr ⟨hfits, Or.inr (hlost hl)⟩
    exact TcpReceiver.hasRoom_receive hroomy.shift.1 hroomy.shift.2 _ _

end Loop

/-! ## Both endpoints -/

section Step

variable {cfg : RecvConfig} {r : TcpReceiver}

/-- The socket writes into the buffer. -/
lemma TcpReceiver.HasRoom.fit (h : r.HasRoom) (hreceiving : r.receiving = true) (bytes : List UInt8) :
    r.recv.size + (bytes.take r.recv.offered).length ≤ r.recv.buffer.length := by
  have hroom := (h.2 hreceiving).2
  rw [List.length_take]
  omega

/-- The server always has room after a callback. -/
lemma TcpServer.hasRoom_step (h : r.HasRoom) (a : ErrorCode × List UInt8) :
    (r.step (TcpServer.receiveCbk cfg) a).HasRoom := by
  rw [TcpReceiver.step]
  split_ifs with hreceiving
  · rw [TcpServer.receiveCbk]
    split_ifs with hbytes
    · exact (TcpServer.keepsRoom cfg).hasRoom_tcpReceived (h.fit hreceiving a.2) False.elim
    · exact ⟨h.1, fun hwaits => absurd hwaits Bool.false_ne_true⟩
    · exact ⟨h.1, fun hwaits => absurd hwaits Bool.false_ne_true⟩
  · exact h

/-- The client has room after a callback in which it does not get stuck. -/
lemma TcpClient.hasRoom_step (h : r.HasRoom) {a : ErrorCode × List UInt8}
    (hstuck : ¬ TcpClient.Stuck cfg r a) : (r.step (TcpClient.receiveCbk cfg) a).HasRoom := by
  rw [TcpReceiver.step]
  split_ifs with hreceiving
  · rw [TcpClient.receiveCbk]
    have hnot : TcpReceiver.HasRoom { r with receiving := false } :=
      ⟨h.1, fun hwaits => absurd hwaits Bool.false_ne_true⟩
    split_ifs with haborted hbytes hclosed
    · exact hnot
    · refine (TcpClient.keepsRoom cfg).hasRoom_tcpReceived (h.fit hreceiving a.2) fun hlost => ?_
      have hfit := h.fit hreceiving a.2
      have hlength := RecvBuffer.length_buffer_store hfit
      refine lt_of_le_of_ne (by rw [← hlength] at hfit; exact hfit) fun hfull => hstuck ?_
      exact ⟨hreceiving, hbytes.1, hbytes.2, hfull, hlost⟩
    · exact hnot
    · obtain ⟨hpos, hroom⟩ := h.2 hreceiving
      refine TcpReceiver.hasRoom_receive ?_ (Or.inr ?_) _ _
      · exact h.1
      · change r.recv.size < r.recv.buffer.length
        omega
  · exact h

/-- The client that is lost ends its loop. -/
lemma TcpClient.round_eq_last {l : TcpLoop} (h : TcpClient.Lost cfg l) :
    TcpClient.round cfg l = (l, .last) := by
  obtain ⟨hheader, hsize, hexceeds, hcookies, hfound⟩ := h
  have hpos : 0 < l.recv.size := lt_of_lt_of_le (by decide) hheader
  simp only [TcpClient.round]
  rw [if_neg (by omega), hexceeds, if_neg Bool.false_ne_true, if_neg (by omega), if_neg (by omega),
    if_pos ⟨hcookies, hpos⟩, if_neg (by omega)]

/-- A first round that is the last one and changes nothing. -/
lemma tcpReceived_of_last {round : TcpLoop → TcpLoop × TcpRound} {r : TcpReceiver}
    {bytes : List UInt8} (h : round ⟨r.recv.store bytes, r.magicCookiesEnabled, 0, []⟩ =
      (⟨r.recv.store bytes, r.magicCookiesEnabled, 0, []⟩, .last)) :
    tcpReceived cfg round r bytes =
      (⟨(r.recv.store bytes).receive cfg, r.magicCookiesEnabled, true⟩, []) := by
  simp [tcpReceived, tcpLoop, h]

/-- The client that gets stuck offers an empty buffer to the socket. -/
lemma TcpClient.not_hasRoom_step {a : ErrorCode × List UInt8} (hstuck : TcpClient.Stuck cfg r a) :
    ¬ (r.step (TcpClient.receiveCbk cfg) a).HasRoom := by
  obtain ⟨hreceiving, herror, hbytes, hfull, hlost⟩ := hstuck
  set bytes := a.2.take r.recv.offered
  let recv : RecvBuffer := { r.recv.store bytes with missingCapacity := 0 }
  have hlast := TcpClient.round_eq_last (l := ⟨recv, r.magicCookiesEnabled, 0, []⟩) hlost
  have hstep : r.step (TcpClient.receiveCbk cfg) a =
      ⟨recv.receive cfg, r.magicCookiesEnabled, true⟩ := by
    rw [TcpReceiver.step, if_pos hreceiving, TcpClient.receiveCbk, if_neg (by rw [herror]; decide),
      if_pos ⟨herror, hbytes⟩]
    exact congrArg Prod.fst (tcpReceived_of_last hlast)
  have hpending : recv.size ≠ 0 := by
    have hheader : 8 ≤ recv.size := hlost.1
    omega
  have hoffered : (recv.receive cfg).offered = 0 := by
    rw [RecvBuffer.receive]
    dsimp only
    rw [if_neg (not_not.mpr rfl), if_neg fun h => hpending h.2.2]
    exact Nat.sub_eq_zero_of_le hfull.ge
  rw [hstep]
  rintro ⟨-, hroom⟩
  exact absurd (hroom rfl).1 (by rw [hoffered]; exact Nat.lt_irrefl 0)

end Step

namespace TcpReceiver

/-- New endpoints have room. -/
lemma hasRoom_start (cfg : RecvConfig) (magicCookiesEnabled : Bool) :
    (TcpServer.start cfg magicCookiesEnabled).HasRoom ∧
      (TcpClient.start cfg magicCookiesEnabled).HasRoom := by
  have hempty : (RecvBuffer.init cfg).size < (RecvBuffer.init cfg).buffer.length := by
    simpa [RecvBuffer.init] using cfg.initialSize_pos
  exact ⟨hasRoom_receive hempty.le (Or.inr hempty) _ _, hasRoom_receive hempty.le (Or.inr hempty) _ _⟩

/-- **The server has room after every callback of every run, and the client exactly if it does not get
stuck in one.** -/
theorem hasRoom_along_iff (server client : RecvConfig) (enabled enabled' : Bool)
    (as bs : List (ErrorCode × List UInt8)) :
    Runs.Along (step (TcpServer.receiveCbk server))
        (fun r a => (r.step (TcpServer.receiveCbk server) a).HasRoom)
        (TcpServer.start server enabled) as ∧
      (Runs.Along (step (TcpClient.receiveCbk client))
          (fun r a => (r.step (TcpClient.receiveCbk client) a).HasRoom)
          (TcpClient.start client enabled') bs ↔
        Runs.Along (step (TcpClient.receiveCbk client)) (fun r a => ¬ TcpClient.Stuck client r a)
          (TcpClient.start client enabled') bs) := by
  constructor
  · refine Runs.along_of_inv (I := HasRoom) (E := fun _ _ => True) ?_
      (hasRoom_start server enabled).1 ?_
    · intro r a h _
      exact ⟨TcpServer.hasRoom_step h a, TcpServer.hasRoom_step h a⟩
    · exact Runs.along_of_forall fun _ _ => trivial
  · refine Runs.along_iff (I := HasRoom) (E := fun _ _ => True) ?_ ?_
      (hasRoom_start client enabled').2 ?_
    · intro r a h _ hstuck
      exact ⟨TcpClient.hasRoom_step h hstuck, TcpClient.hasRoom_step h hstuck⟩
    · intro r a _ _ hstuck
      exact TcpClient.not_hasRoom_step (not_not.mp hstuck)
    · exact Runs.along_of_forall fun _ _ => trivial

/-- The client gets a cookie in two parts and then sixteen zeros. -/
theorem not_hasRoom_along : ¬ ∀ (client : RecvConfig) (enabled : Bool)
    (bs : List (ErrorCode × List UInt8)), Runs.Along (step (TcpClient.receiveCbk client))
      (fun r a => (r.step (TcpClient.receiveCbk client) a).HasRoom)
      (TcpClient.start client enabled) bs := by
  intro h
  obtain ⟨-, -, hroom, -⟩ := h TcpClient.unlimited false
    [(.success, serviceCookie.take 8), (.success, serviceCookie.drop 8),
      (.success, List.replicate 16 0)]
  revert hroom
  unfold HasRoom
  decide

end TcpReceiver

end Vsomeip
