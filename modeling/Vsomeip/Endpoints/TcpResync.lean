import Vsomeip.Endpoints.TcpRoom

set_option relaxedAutoImplicit false
set_option autoImplicit false

/-!
# Resynchronisation at magic cookies

With magic cookies enabled, a TCP endpoint that got bytes which are no messages looks for the next magic
cookie of its peer and goes on behind it. The search stops one byte too early: it does not see a cookie
that ends exactly with the last received byte. A message is then delivered with a cookie inside, or the
endpoint waits although the cookie is there. A part of a cookie is also lost when the bytes in front of
it claim to be a complete message or one that is too large, and the server gives up if they claim to be
an empty message. If nothing of that happens, then the first cookie behind the junk is found, and every
message behind it is delivered.

## Main definitions

* `Vsomeip.TcpRole` — the server and the client, with their callbacks and the cookies they look for.
* `Vsomeip.TcpLoop.Missed` — the received bytes are a message that ends with the first cookie in it.
* `Vsomeip.TcpRole.Safe` — a round does not lose the next cookie of the stream.
* `Vsomeip.WellFormed` — messages and cookies, as they follow the first cookie.
* `Vsomeip.Ahead` — what is ahead of an endpoint in the stream: junk, and what is well formed.

## Main results

* `Vsomeip.TcpRole.clean_tcpLoop_iff` — what the loop delivers contains no cookie, exactly if no round
  misses one.
* `Vsomeip.TcpRole.advances_round` — a safe round of either endpoint gets on in the stream.
* `Vsomeip.TcpRole.resynchronises` — the same for every run, from every state that can be reached.
-/

namespace Vsomeip

/-! ## The endpoints -/

/-- The two TCP endpoints that receive. -/
inductive TcpRole
  | server
  | client
deriving DecidableEq, Repr

namespace TcpRole

/-- The magic cookie of the peer. -/
def peerCookie : TcpRole → List UInt8
  | server => clientCookie
  | client => serviceCookie

/-- One round of the loop of `receive_cbk`. -/
def round (cfg : RecvConfig) : TcpRole → TcpLoop → TcpLoop × TcpRound
  | server => TcpServer.round cfg
  | client => TcpClient.round cfg

/-- `receive_cbk`. -/
def receiveCbk (cfg : RecvConfig) :
    TcpRole → TcpReceiver → ErrorCode → List UInt8 → TcpReceiver × List TcpEvent
  | server => TcpServer.receiveCbk cfg
  | client => TcpClient.receiveCbk cfg

/-- A new endpoint. -/
def start (cfg : RecvConfig) : TcpRole → Bool → TcpReceiver
  | server => TcpServer.start cfg
  | client => TcpClient.start cfg

/-- The endpoint as a receiver of chunks. -/
def step (cfg : RecvConfig) : TcpRole → TcpReceiver → List UInt8 → TcpReceiver × List (List UInt8)
  | server => TcpServer.step cfg
  | client => TcpClient.step cfg

/-- The missing capacity is a local variable of the client. -/
def prepared : TcpRole → TcpReceiver → TcpReceiver
  | server, r => r
  | client, r => { r with recv := { r.recv with missingCapacity := 0 } }

/-- The state in which the loop of `receive_cbk` begins. -/
def loop (role : TcpRole) (r : TcpReceiver) (bytes : List UInt8) : TcpLoop :=
  { recv := (role.prepared r).recv.store bytes, magicCookiesEnabled := r.magicCookiesEnabled,
    iterationGap := 0, events := [] }

end TcpRole

namespace TcpLoop

variable (l : TcpLoop)

/-- The bytes that are not done yet. -/
def pending : List UInt8 := l.recv.content l.iterationGap

/-- `current_message_size` at the beginning of a round. -/
def messageSize : ℕ := (getMessageSize l.front l.recv.size).toNat

/-- `has_full_message` at the beginning of a round. -/
def Complete : Prop := l.messageSize > someipHeaderSize ∧ l.messageSize ≤ l.recv.size

instance : Decidable l.Complete := inferInstanceAs (Decidable (_ ∧ _))

/-- With magic cookies enabled, the pending bytes are one message, and the first cookie in it ends with
the last of them. -/
def Missed (cookie : List UInt8) : Prop :=
  l.magicCookiesEnabled = true ∧ 16 < l.recv.size ∧ l.messageSize = l.recv.size ∧
    Framing.FirstAt cookie l.pending (l.recv.size - 16)

/-- A property of every state in which a round of the loop begins. -/
def Along (round : TcpLoop → TcpLoop × TcpRound) (P : TcpLoop → Prop) : ℕ → TcpLoop → Prop
  | 0, _ => True
  | fuel + 1, l => P l ∧ ((round l).2 = .again → (round l).1.recv.size ≠ 0 →
      Along round P fuel (round l).1)

section Along

variable {round : TcpLoop → TcpLoop × TcpRound} {P Q : TcpLoop → Prop}

/-- A property along a loop that implies another one. -/
lemma Along.imp (h : ∀ l, P l → Q l) : ∀ {fuel : ℕ} {l : TcpLoop}, l.Along round P fuel →
    l.Along round Q fuel
  | 0, _, _ => trivial
  | _ + 1, _, halong =>
    ⟨h _ halong.1, fun hagain hpending => (halong.2 hagain hpending).imp h⟩

instance decidableAlong [DecidablePred P] : ∀ (fuel : ℕ) (l : TcpLoop),
    Decidable (l.Along round P fuel)
  | 0, _ => isTrue trivial
  | fuel + 1, l =>
    have := decidableAlong fuel (round l).1
    inferInstanceAs (Decidable (P l ∧ ((round l).2 = .again → (round l).1.recv.size ≠ 0 →
      Along round P fuel (round l).1)))

end Along

end TcpLoop

namespace TcpRole

/-- The next cookie stands `o` bytes behind the beginning of the pending bytes. A message that reaches
into it is complete only when a byte behind the cookie is received, too. If no message is complete,
then the endpoint finds the cookie, or it drops no part of the cookie and waits for the rest. The search
counts in 32 bits. -/
def SafeAt (cfg : RecvConfig) (role : TcpRole) (l : TcpLoop) (o : ℕ) : Prop :=
  (l.Complete → o = 0 ∨ l.messageSize ≤ o ∨ o + 16 < l.recv.size) ∧
    (¬ l.Complete → l.recv.size ≤ 0xFFFFFFFF ∧
      match role with
      | server => o + 16 < l.recv.size ∨ l.recv.size < o + 16 ∧
          if TcpLoop.exceeds cfg (getMessageSize l.front l.recv.size) then l.recv.size ≤ o
          else l.recv.size < someipHeaderSize ∨ someipHeaderSize < l.messageSize
      | client =>
          if TcpLoop.exceeds cfg (getMessageSize l.front l.recv.size) then l.recv.size ≤ o
          else if l.recv.size < someipHeaderSize ∨ someipHeaderSize < l.messageSize then
            l.recv.size < o + 16
          else o + 16 ≠ l.recv.size)

/-- If a cookie is in the pending bytes and the `later` ones, then the round does not lose it. -/
def Safe (cfg : RecvConfig) (role : TcpRole) (later : List UInt8) (l : TcpLoop) : Prop :=
  ∀ o, Framing.FirstAt role.peerCookie (l.pending ++ later) o → role.SafeAt cfg l o

instance decidableSafeAt (cfg : RecvConfig) (l : TcpLoop) (o : ℕ) :
    ∀ role : TcpRole, Decidable (role.SafeAt cfg l o)
  | server => inferInstanceAs (Decidable ((_ → _ ∨ _ ∨ _) ∧ (_ → _ ∧ (_ ∨ _ ∧ ite _ _ _))))
  | client => inferInstanceAs (Decidable ((_ → _ ∨ _ ∨ _) ∧ (_ → _ ∧ ite _ _ (ite _ _ _))))

instance decidableSafe (cfg : RecvConfig) (role : TcpRole) (later : List UInt8) (l : TcpLoop) :
    Decidable (role.Safe cfg later l) :=
  decidable_of_iff (∀ o < (l.pending ++ later).length,
      Framing.FirstAt role.peerCookie (l.pending ++ later) o → role.SafeAt cfg l o)
    ⟨fun h o hfirst => h o (by
      have hle := hfirst.here.length_le
      have hpos : 0 < role.peerCookie.length := by cases role <;> decide
      rw [List.length_drop] at hle
      omega) hfirst, fun h o _ hfirst => h o hfirst⟩

/-- A property of all rounds in a run, which may speak about the bytes that are received later. -/
def RoundsAlong (cfg : RecvConfig) (role : TcpRole) (P : List UInt8 → TcpLoop → Prop) :
    TcpReceiver → List (List UInt8) → Prop :=
  Framing.Along (role.step cfg) fun r c later =>
    TcpLoop.Along (role.round cfg) (P later) ((role.loop r c).recv.size + 1) (role.loop r c)

end TcpRole

/-! ## The search for a cookie -/

section Search

variable {cookie : List UInt8} {l : TcpLoop}

/-- A cookie has 16 bytes. -/
lemma TcpRole.length_peerCookie (role : TcpRole) : role.peerCookie.length = 16 := by
  cases role <;> rfl

/-- The peer sends one of the two cookies. -/
lemma TcpRole.peerCookie_eq (role : TcpRole) :
    role.peerCookie = clientCookie ∨ role.peerCookie = serviceCookie := by
  cases role with
  | server => exact Or.inl rfl
  | client => exact Or.inr rfl

/-- Cookies do not overlap. -/
lemma TcpRole.unbordered_peerCookie (role : TcpRole) : Framing.Unbordered role.peerCookie := by
  cases role <;> unfold Framing.Unbordered <;> decide

/-- The bytes that are pending are as many as the buffer says. -/
lemma TcpLoop.Fits.length_pending (hfits : l.Fits) : l.pending.length = l.recv.size :=
  RecvBuffer.length_content hfits

/-- A cookie that is pending fits into the buffer. -/
lemma le_of_prefix_drop (hcookie : cookie.length = 16) {i : ℕ} (h : cookie <+: l.pending.drop i) :
    i + 16 ≤ l.recv.size := by
  have hlen := h.length_le
  have hpending : l.pending.length ≤ l.recv.size := List.length_take_le _ _
  rw [List.length_drop] at hlen
  omega

/-- A cookie in the pending bytes is what the endpoint compares with the cookie. -/
lemma prefix_drop_pending_iff (hcookie : cookie.length = 16) {i : ℕ} (hi : i + 16 ≤ l.recv.size) :
    cookie <+: l.pending.drop i ↔ (l.front.drop i).take 16 = cookie := by
  have hdrop : l.pending.drop i = (l.front.drop i).take (l.recv.size - i) := List.drop_take
  rw [List.prefix_iff_eq_take, hcookie, hdrop, List.take_take, Nat.min_eq_left (by omega)]
  exact eq_comm

/-- The search finds the first cookie, if a byte is behind it. -/
lemma findMagicCookie_cases (hcookie : cookie.length = 16) :
    (findMagicCookie cookie l.front l.recv.size = 0xFFFFFFFF ∧
      ∀ i, i + 16 < l.recv.size → ¬ cookie <+: l.pending.drop i) ∨
    (findMagicCookie cookie l.front l.recv.size + 16 < l.recv.size ∧
      Framing.FirstAt cookie l.pending (findMagicCookie cookie l.front l.recv.size)) := by
  rw [findMagicCookie]
  cases hfind : (List.range (l.recv.size - 16)).find? fun offset =>
      (l.front.drop offset).take 16 == cookie with
  | none =>
    left
    refine ⟨rfl, fun i hi hpre => ?_⟩
    have hnot := List.find?_range_eq_none.mp hfind i (by omega)
    rw [prefix_drop_pending_iff hcookie (by omega)] at hpre
    simp [hpre] at hnot
  | some o =>
    right
    obtain ⟨hhere, hmem, hbefore⟩ := List.find?_range_eq_some.mp hfind
    have hlt := List.mem_range.mp hmem
    rw [Option.getD_some]
    refine ⟨by omega, ?_, fun i hi hpre => ?_⟩
    · rw [prefix_drop_pending_iff hcookie (by omega)]
      simpa using hhere
    · have hnot := hbefore i hi
      rw [prefix_drop_pending_iff hcookie (by omega)] at hpre
      simp [hpre] at hnot

/-- What is compared with the cookie in front of a complete message lies in the message. -/
lemma isMagicCookie_iff (role : TcpRole) (hcomplete : l.Complete) :
    l.isMagicCookie role.peerCookie = true ↔ role.peerCookie <+: l.pending := by
  obtain ⟨hheader, hle⟩ := hcomplete
  rw [someipHeaderSize] at hheader
  constructor
  · intro h
    have hfront : l.front.take 16 = role.peerCookie := by simpa [TcpLoop.isMagicCookie] using h
    have hsize : l.messageSize = 16 := by
      rw [TcpLoop.messageSize, getMessageSize_of_cookie role.peerCookie_eq hfront (by omega)]
      rfl
    exact (prefix_drop_pending_iff role.length_peerCookie (i := 0) (by omega)).mpr hfront
  · intro h
    have hlen := le_of_prefix_drop role.length_peerCookie (i := 0) h
    have hfront := (prefix_drop_pending_iff role.length_peerCookie (i := 0) hlen).mp h
    simpa [TcpLoop.isMagicCookie] using hfront

/-- A complete message with a cookie in front is the cookie. -/
lemma messageSize_of_cookie (role : TcpRole) (h : role.peerCookie <+: l.pending) :
    l.messageSize = 16 := by
  have hlen := le_of_prefix_drop role.length_peerCookie (i := 0) h
  have hfront : l.front.take 16 = role.peerCookie :=
    (prefix_drop_pending_iff role.length_peerCookie hlen).mp h
  rw [TcpLoop.messageSize, getMessageSize_of_cookie role.peerCookie_eq hfront (by omega)]
  rfl

end Search

/-! ## Complete messages -/

section Complete

variable {l l' : TcpLoop}

/-- When bytes are taken away, the others are pending. -/
lemma pending_eq_drop {k : ℕ} (hbuffer : l'.recv.buffer = l.recv.buffer)
    (hgap : l'.iterationGap = l.iterationGap + k) (hsize : l'.recv.size = l.recv.size - k) :
    l'.pending = l.pending.drop k := by
  simp only [TcpLoop.pending, RecvBuffer.content]
  rw [hbuffer, hgap, hsize, List.drop_take, List.drop_drop]

/-- The branch for a complete message with magic cookies enabled: a cookie in front is taken away, a
message with a cookie inside is cut off in front of it, and any other one is delivered. -/
lemma fullMessage_enabled (cfg : RecvConfig) (role : TcpRole) (hcomplete : l.Complete)
    (henabled : l.magicCookiesEnabled = true) {requests lost : List TcpEvent}
    (hrequests : TcpEvent.messages requests = []) (hlost : TcpEvent.messages lost = [])
    (hl' : l.fullMessage cfg role.peerCookie requests lost l.messageSize = l') :
    l'.magicCookiesEnabled = true ∧ ∃ k ms, l'.pending = l.pending.drop k ∧
      TcpEvent.messages l'.events = TcpEvent.messages l.events ++ ms ∧
      (role.peerCookie <+: l.pending ∧ k = 16 ∧ ms = [] ∨
        ¬ role.peerCookie <+: l.pending ∧
          findMagicCookie role.peerCookie l.front l.recv.size < l.messageSize ∧
          k = findMagicCookie role.peerCookie l.front l.recv.size ∧ ms = [] ∨
        ¬ role.peerCookie <+: l.pending ∧
          l.messageSize ≤ findMagicCookie role.peerCookie l.front l.recv.size ∧
          k = l.messageSize ∧ ms = [l.pending.take l.messageSize]) := by
  have hiff := isMagicCookie_iff role hcomplete
  obtain ⟨recv, enabled, k, events, heq, hbuffer, hrecv, hcases⟩ :=
    fullMessage_cases cfg l role.peerCookie requests lost l.messageSize
  rw [heq] at hl'
  have hpending : l'.pending = l.pending.drop k := by
    rw [← hl']
    exact pending_eq_drop hbuffer rfl hrecv
  have hmessages : TcpEvent.messages l'.events =
      TcpEvent.messages l.events ++ TcpEvent.messages events := by
    rw [← hl', messages_append]
  have hkept : l'.magicCookiesEnabled = enabled := by rw [← hl']
  rcases hcases with ⟨hcookie, rfl, rfl, rfl⟩ |
    ⟨hcookie, rfl, ⟨⟨-, hcut⟩, rfl, rfl⟩ | ⟨hcut, rfl, rfl⟩⟩
  · have hpre := hiff.mp hcookie
    rw [hrequests] at hmessages
    exact ⟨hkept, _, [], hpending, hmessages, Or.inl ⟨hpre, messageSize_of_cookie role hpre, rfl⟩⟩
  · have hpre : ¬ role.peerCookie <+: l.pending := by
      rw [← hiff, hcookie]
      exact Bool.false_ne_true
    rw [hlost] at hmessages
    exact ⟨hkept.trans henabled, _, [], hpending, hmessages, Or.inr (Or.inl ⟨hpre, hcut, rfl, rfl⟩)⟩
  · have hpre : ¬ role.peerCookie <+: l.pending := by
      rw [← hiff, hcookie]
      exact Bool.false_ne_true
    have hfront : l.front.take l.messageSize = l.pending.take l.messageSize := by
      rw [TcpLoop.pending, RecvBuffer.content, List.take_take, Nat.min_eq_left hcomplete.2]
      rfl
    rw [messages_append, hrequests, hfront] at hmessages
    have hle : l.messageSize ≤ findMagicCookie role.peerCookie l.front l.recv.size :=
      Nat.le_of_not_lt fun hlt => hcut ⟨henabled, hlt⟩
    exact ⟨hkept.trans henabled, _, _, hpending, hmessages, Or.inr (Or.inr ⟨hpre, hle, rfl, rfl⟩)⟩

end Complete

/-! ## What is delivered contains no cookie -/

section Clean

variable {cfg : RecvConfig} {l : TcpLoop}

/-- A message size has 32 bits. -/
lemma messageSize_le (l : TcpLoop) : l.messageSize ≤ 0xFFFFFFFF :=
  Nat.lt_succ_iff.mp (getMessageSize l.front l.recv.size).toNat_lt

/-- Both endpoints have a branch for a complete message. -/
lemma TcpRole.round_of_complete (cfg : RecvConfig) (role : TcpRole) (hcomplete : l.Complete) :
    ∃ requests lost, TcpEvent.messages requests = [] ∧ TcpEvent.messages lost = [] ∧
      role.round cfg l =
        (l.fullMessage cfg role.peerCookie requests lost l.messageSize, .again) := by
  cases role with
  | server =>
    refine ⟨TcpServer.requests l.front, [.onError (l.front.take l.recv.size)], ?_, rfl, ?_⟩
    · rw [TcpServer.requests]
      split_ifs <;> rfl
    · exact if_pos hcomplete
  | client => exact ⟨[], [], rfl, rfl, if_pos hcomplete⟩

/-- The server goes on at the cookie that it finds. -/
lemma TcpServer.resync_of_found (henabled : l.magicCookiesEnabled = true)
    (hfound : findMagicCookie clientCookie l.front l.recv.size < l.recv.size) :
    ∃ errors, TcpEvent.messages errors = [] ∧ TcpServer.resync l =
      some ((l.skip (findMagicCookie clientCookie l.front l.recv.size)).emit errors) := by
  let error (l : TcpLoop) : List TcpEvent :=
    if l.isMagicCookie clientCookie then [] else [.onError (l.front.take l.recv.size)]
  have herror (l : TcpLoop) : TcpEvent.messages (error l) = [] := by
    dsimp only [error]
    split_ifs <;> rfl
  let o := findMagicCookie clientCookie l.front l.recv.size
  refine ⟨error l ++ error ((l.emit (error l)).skip o), ?_, ?_⟩
  · rw [messages_append, herror, herror]
    rfl
  · have hskip : ((l.emit (error l)).skip o).emit (error ((l.emit (error l)).skip o)) =
        (l.skip o).emit (error l ++ error ((l.emit (error l)).skip o)) := by
      simp only [TcpLoop.emit, TcpLoop.skip, List.append_assoc]
    rw [← hskip]
    exact if_pos ⟨henabled, Nat.zero_lt_of_lt hfound, hfound⟩

/-- Nothing is delivered if no message is complete. -/
lemma TcpRole.round_of_not_complete (cfg : RecvConfig) (role : TcpRole) (hcomplete : ¬ l.Complete) :
    (role.round cfg l).1.magicCookiesEnabled = l.magicCookiesEnabled ∧
      TcpEvent.messages (role.round cfg l).1.events = TcpEvent.messages l.events := by
  rw [TcpLoop.Complete, TcpLoop.messageSize] at hcomplete
  cases role with
  | server =>
    simp only [TcpRole.round, TcpServer.round]
    rw [if_neg hcomplete]
    by_cases hfound : l.magicCookiesEnabled = true ∧ l.recv.size > 0 ∧
        findMagicCookie clientCookie l.front l.recv.size < l.recv.size
    · obtain ⟨errors, herrors, hresync⟩ := TcpServer.resync_of_found hfound.1 hfound.2.2
      rw [hresync]
      refine ⟨rfl, ?_⟩
      simp only [TcpLoop.emit, TcpLoop.skip, messages_append, herrors, List.append_nil]
    · have hresync : TcpServer.resync l = none := if_neg hfound
      rw [hresync]
      dsimp only
      split_ifs <;> simp [TcpLoop.reset, TcpLoop.miss, TcpLoop.emit, TcpEvent.messages]
  | client =>
    simp only [TcpRole.round, TcpClient.round]
    rw [if_neg hcomplete]
    split_ifs <;> simp [TcpLoop.reset, TcpLoop.miss, TcpLoop.emit, TcpLoop.skip, TcpEvent.messages]

/-- A message that is delivered contains a cookie only if it ends with the received bytes, and with the
first cookie in them. -/
lemma clean_take_iff (role : TcpRole) (hfits : l.Fits) (henabled : l.magicCookiesEnabled = true)
    (hcomplete : l.Complete) (hpre : ¬ role.peerCookie <+: l.pending)
    (hnot : l.messageSize ≤ findMagicCookie role.peerCookie l.front l.recv.size) :
    ¬ role.peerCookie <:+: l.pending.take l.messageSize ↔ ¬ l.Missed role.peerCookie := by
  have hlen := hfits.length_pending
  have hle := hcomplete.2
  rw [not_iff_not]
  constructor
  · intro hrecord
    obtain ⟨i, hi⟩ := Framing.infix_iff_exists_prefix_drop.mp hrecord
    have hend : i + 16 ≤ l.messageSize := by
      have hlength := hi.length_le
      rw [role.length_peerCookie, List.length_drop, List.length_take] at hlength
      omega
    have hhere : role.peerCookie <+: l.pending.drop i := by
      rw [List.drop_take] at hi
      have htake := List.take_prefix (l.messageSize - i) (l.pending.drop i)
      exact hi.trans htake
    have hpos : i ≠ 0 := by
      rintro rfl
      exact hpre hhere
    rcases findMagicCookie_cases (l := l) role.length_peerCookie with ⟨-, hnone⟩ | ⟨-, hfirst⟩
    · have hsize : l.recv.size = i + 16 := by
        by_contra hne
        exact hnone i (by omega) hhere
      refine ⟨henabled, by omega, by omega, ?_⟩
      rw [hsize, Nat.add_sub_cancel]
      exact ⟨hhere, fun j hj => hnone j (by omega)⟩
    · exact absurd hhere (hfirst.not_before i (by omega))
  · rintro ⟨-, -, hsize, hfirst⟩
    rw [hsize, ← hlen, List.take_length]
    exact Framing.infix_of_prefix_drop hfirst.here

/-- What a round delivers contains no cookie, exactly if it does not miss one. -/
lemma TcpRole.clean_round_iff (cfg : RecvConfig) (role : TcpRole) (hfits : l.Fits)
    (henabled : l.magicCookiesEnabled = true) :
    (role.round cfg l).1.magicCookiesEnabled = true ∧
      ∃ ms, TcpEvent.messages (role.round cfg l).1.events = TcpEvent.messages l.events ++ ms ∧
        ((∀ m ∈ ms, ¬ role.peerCookie <:+: m) ↔ ¬ l.Missed role.peerCookie) := by
  by_cases hcomplete : l.Complete
  · obtain ⟨requests, lost, hrequests, hlost, hround⟩ := role.round_of_complete cfg hcomplete
    rw [hround]
    obtain ⟨henabled', k, ms, -, hevents, hbranch⟩ :=
      fullMessage_enabled cfg role hcomplete henabled hrequests hlost rfl
    refine ⟨henabled', ms, hevents, ?_⟩
    rcases hbranch with ⟨hpre, -, rfl⟩ | ⟨-, hcut, -, rfl⟩ | ⟨hpre, hnot, -, rfl⟩
    · -- a cookie is no longer message
      refine iff_of_true (fun m hm => absurd hm List.not_mem_nil) ?_
      rintro ⟨-, hlt, hsize, -⟩
      rw [messageSize_of_cookie role hpre] at hsize
      omega
    · -- the cookie that is found does not end with the received bytes
      refine iff_of_true (fun m hm => absurd hm List.not_mem_nil) ?_
      rintro ⟨-, -, hsize, hfirst⟩
      have hmax := messageSize_le l
      rcases findMagicCookie_cases (l := l) role.length_peerCookie with ⟨hnone, -⟩ | ⟨hend, hfound⟩
      · omega
      · have heq := hfirst.unique hfound
        omega
    · simp only [List.mem_singleton, forall_eq]
      exact clean_take_iff role hfits henabled hcomplete hpre hnot
  · obtain ⟨henabled', hevents⟩ := role.round_of_not_complete cfg hcomplete
    refine ⟨henabled'.trans henabled, [], by rw [hevents, List.append_nil], ?_⟩
    refine iff_of_true (fun m hm => absurd hm List.not_mem_nil) ?_
    rintro ⟨-, hlt, hsize, -⟩
    refine hcomplete ⟨?_, hsize.le⟩
    rw [someipHeaderSize]
    omega

/-- The rounds of both endpoints keep room. -/
lemma TcpRole.keepsRoom (cfg : RecvConfig) (role : TcpRole) :
    ∃ Lost, KeepsRoom (role.round cfg) Lost := by
  cases role with
  | server => exact ⟨_, TcpServer.keepsRoom cfg⟩
  | client => exact ⟨_, TcpClient.keepsRoom cfg⟩

/-- A round that goes on leaves the pending bytes in the buffer. -/
lemma TcpRole.fits_round (cfg : RecvConfig) (role : TcpRole) (hfits : l.Fits)
    (hagain : (role.round cfg l).2 = .again) :
    (role.round cfg l).1.Fits ∧ (role.round cfg l).1.recv.size < l.recv.size := by
  obtain ⟨Lost, hkeeps⟩ := role.keepsRoom cfg
  have hends := hkeeps l hfits
  rw [hagain] at hends
  exact ⟨(hends.roomy hfits).1, hends.2.2⟩

/-- The loop goes on. -/
lemma tcpLoop_again {round : TcpLoop → TcpLoop × TcpRound} {fuel : ℕ}
    (h : (round l).2 = .again ∧ (round l).1.recv.size ≠ 0) :
    tcpLoop round (fuel + 1) l = tcpLoop round fuel (round l).1 := by
  obtain ⟨hagain, hpending⟩ := h
  rw [tcpLoop]
  rcases hround : round l with ⟨l', outcome⟩
  rw [hround] at hagain hpending
  dsimp only at hagain
  subst hagain
  exact if_pos hpending

/-- The loop ends. -/
lemma tcpLoop_last {round : TcpLoop → TcpLoop × TcpRound} {fuel : ℕ}
    (h : ¬ ((round l).2 = .again ∧ (round l).1.recv.size ≠ 0)) :
    tcpLoop round (fuel + 1) l = ((round l).1, (round l).2 == .stop) := by
  rw [tcpLoop]
  rcases hround : round l with ⟨l', _ | _ | _⟩
  · rw [hround] at h
    exact if_neg fun hpending => h ⟨rfl, hpending⟩
  · rfl
  · rfl

/-- What the loop delivers contains no cookie, exactly if none of its rounds misses one. -/
lemma TcpRole.clean_tcpLoop_iff (cfg : RecvConfig) (role : TcpRole) : ∀ (fuel : ℕ) {l : TcpLoop},
    l.Fits → l.magicCookiesEnabled = true →
    (tcpLoop (role.round cfg) fuel l).1.magicCookiesEnabled = true ∧
      ∃ ms, TcpEvent.messages (tcpLoop (role.round cfg) fuel l).1.events =
          TcpEvent.messages l.events ++ ms ∧
        ((∀ m ∈ ms, ¬ role.peerCookie <:+: m) ↔
          l.Along (role.round cfg) (fun l => ¬ l.Missed role.peerCookie) fuel)
  | 0, l, _, henabled => ⟨henabled, [], (List.append_nil _).symm,
      iff_of_true (fun m hm => absurd hm List.not_mem_nil) trivial⟩
  | fuel + 1, l, hfits, henabled => by
    obtain ⟨henabled', ms, hevents, hclean⟩ := role.clean_round_iff cfg hfits henabled
    rw [TcpLoop.Along]
    by_cases hnext : (role.round cfg l).2 = .again ∧ (role.round cfg l).1.recv.size ≠ 0
    · obtain ⟨henabled'', ms', hevents', hclean'⟩ :=
        TcpRole.clean_tcpLoop_iff cfg role fuel (role.fits_round cfg hfits hnext.1).1 henabled'
      rw [tcpLoop_again hnext]
      refine ⟨henabled'', ms ++ ms', by rw [hevents', hevents, List.append_assoc], ?_⟩
      rw [List.forall_mem_append, hclean, hclean']
      exact and_congr_right fun _ => ⟨fun h _ _ => h, fun h => h hnext.1 hnext.2⟩
    · rw [tcpLoop_last hnext]
      refine ⟨henabled', ms, hevents, hclean.trans ?_⟩
      exact (and_iff_left fun hagain hpending => absurd ⟨hagain, hpending⟩ hnext).symm

end Clean

/-! ## What is ahead in the stream -/

/-- A message with a consistent length field that the endpoint accepts. -/
structure TcpFrame (cfg : RecvConfig) (m : List UInt8) : Prop where
  full : 16 ≤ m.length
  length : m.length =
    8 + (bytesToLong (m.getD 4 0) (m.getD 5 0) (m.getD 6 0) (m.getD 7 0)).toNat
  max : m.length ≤ cfg.maxMessageSize.toNat

/-- The beginning of such a message, or nothing. -/
def FramePart (cfg : RecvConfig) (q : List UInt8) : Prop :=
  q = [] ∨ ∃ m, TcpFrame cfg m ∧ q <+: m ∧ q.length < m.length

/-- Messages and cookies with the beginning `q` of a message behind them. No cookie begins in one of the
messages. -/
inductive WellFormed (cfg : RecvConfig) (cookie q : List UInt8) : List (List UInt8) → Prop
  | rest : FramePart cfg q → ¬ cookie <:+: q → WellFormed cfg cookie q []
  | cookie {items : List (List UInt8)} : WellFormed cfg cookie q items →
      WellFormed cfg cookie q (cookie :: items)
  | message {m : List UInt8} {items : List (List UInt8)} : TcpFrame cfg m →
      (∀ i < m.length, ¬ cookie <+: (m ++ (items.flatten ++ q)).drop i) →
      WellFormed cfg cookie q items → WellFormed cfg cookie q (m :: items)

/-- The messages among them. -/
def messagesOf (cookie : List UInt8) (items : List (List UInt8)) : List (List UInt8) :=
  items.filter (· ≠ cookie)

/-- What is ahead in a stream: junk without a cookie and then a cookie, or no junk; what follows is well
formed. -/
inductive Ahead (cfg : RecvConfig) (cookie q stream : List UInt8) :
    List UInt8 → List (List UInt8) → Prop
  | cookie {junk : List UInt8} {items : List (List UInt8)} : ¬ cookie <:+: junk →
      WellFormed cfg cookie q items → stream = junk ++ (cookie ++ (items.flatten ++ q)) →
      Ahead cfg cookie q stream junk (cookie :: items)
  | message {m : List UInt8} {items : List (List UInt8)} : TcpFrame cfg m →
      (∀ i < m.length, ¬ cookie <+: stream.drop i) → WellFormed cfg cookie q items →
      stream = m ++ (items.flatten ++ q) → Ahead cfg cookie q stream [] (m :: items)
  | rest : FramePart cfg q → ¬ cookie <:+: q → stream = q → Ahead cfg cookie q stream [] []

/-- A well-formed stream lies ahead as a whole. -/
lemma WellFormed.ahead {cfg : RecvConfig} {cookie q : List UInt8} {items : List (List UInt8)}
    (h : WellFormed cfg cookie q items) (hcookie : cookie ≠ []) :
    Ahead cfg cookie q (items.flatten ++ q) [] items := by
  cases h with
  | rest hpart hclear => exact .rest hpart hclear rfl
  | cookie h =>
    refine .cookie (fun hrecord => hcookie (List.eq_nil_of_infix_nil hrecord)) h ?_
    rw [List.flatten_cons, List.append_assoc, List.nil_append]
  | @message m items hm hclear h =>
    rw [List.flatten_cons, List.append_assoc]
    exact .message hm hclear h rfl

/-- How the endpoint gets on: behind the junk, every message is delivered. -/
structure Progress (cookie junk : List UInt8) (items ms : List (List UInt8)) (junk' : List UInt8)
    (items' : List (List UInt8)) : Prop where
  synced : junk = [] → junk' = [] ∧ ms ++ messagesOf cookie items' = messagesOf cookie items
  searching : junk' ≠ [] → items' = items
  suffix : messagesOf cookie items <:+ ms ++ messagesOf cookie items'

section Progress

variable {cookie junk junk' junk'' : List UInt8} {items items' items'' ms ms' : List (List UInt8)}

/-- No progress. -/
lemma Progress.refl : Progress cookie junk items [] junk items :=
  ⟨fun h => ⟨h, rfl⟩, fun _ => rfl, List.suffix_rfl⟩

/-- Junk is done with, whatever is delivered. -/
lemma Progress.of_junk (hjunk : junk ≠ [] ∨ junk' = [] ∧ ms = []) :
    Progress cookie junk items ms junk' items := by
  refine ⟨fun hnil => ?_, fun _ => rfl, List.suffix_append _ _⟩
  obtain ⟨rfl, rfl⟩ := hjunk.resolve_left fun h => h hnil
  exact ⟨rfl, rfl⟩

/-- The first of the items is done with. -/
lemma Progress.of_item (h : ms ++ messagesOf cookie items' = messagesOf cookie items) :
    Progress cookie junk items ms [] items' :=
  ⟨fun _ => ⟨rfl, h⟩, fun hnil => absurd rfl hnil, by rw [h]⟩

/-- Progress one after the other. -/
lemma Progress.trans (h : Progress cookie junk items ms junk' items')
    (h' : Progress cookie junk' items' ms' junk'' items'') :
    Progress cookie junk items (ms ++ ms') junk'' items'' := by
  refine ⟨fun hnil => ?_, fun hne => ?_, ?_⟩
  · obtain ⟨hnil', hms⟩ := h.synced hnil
    obtain ⟨hnil'', hms'⟩ := h'.synced hnil'
    exact ⟨hnil'', by rw [List.append_assoc, hms', hms]⟩
  · have hne' : junk' ≠ [] := fun hnil' => hne (h'.synced hnil').1
    exact (h'.searching hne).trans (h.searching hne')
  · rw [List.append_assoc]
    by_cases hnil' : junk' = []
    · rw [(h'.synced hnil').2]
      exact h.suffix
    · have hsuffix := h'.suffix
      rw [h.searching hnil'] at hsuffix
      exact hsuffix.trans (List.suffix_append _ _)

end Progress

/-! ## Safe rounds -/

section Rounds

variable {cfg : RecvConfig} {l : TcpLoop} {later m x : List UInt8} {o : ℕ}

/-- The size of a message is known when its first eight bytes are pending. -/
lemma messageSize_of_split (hfits : l.Fits) (hlen : m.length =
      8 + (bytesToLong (m.getD 4 0) (m.getD 5 0) (m.getD 6 0) (m.getD 7 0)).toNat)
    (hmax : m.length < 2 ^ 32) (h8 : 8 ≤ l.recv.size) (hsplit : l.pending ++ later = m ++ x) :
    l.messageSize = m.length := by
  refine getMessageSize_toNat_of_take hlen hmax h8 ?_
  have htake := congrArg (List.take 8) hsplit
  rwa [List.take_append_of_le_length (by rw [hfits.length_pending]; omega),
    List.take_append_of_le_length (by omega)] at htake

/-- Fewer than eight bytes have no message size. -/
lemma messageSize_of_lt (h : l.recv.size < 8) : l.messageSize = 0 := by
  rw [TcpLoop.messageSize, getMessageSize, if_neg (by rw [someipHeaderSize]; omega)]
  rfl

/-- The length of a frame has 32 bits. -/
lemma TcpFrame.length_lt (hm : TcpFrame cfg m) : m.length < 2 ^ 32 :=
  lt_of_le_of_lt hm.max cfg.maxMessageSize.toNat_lt

/-- The search finds the next cookie of the stream exactly if a byte behind it is received. -/
lemma findMagicCookie_of_firstAt (role : TcpRole) (hfits : l.Fits)
    (hfirst : Framing.FirstAt role.peerCookie (l.pending ++ later) o) :
    (o + 16 < l.recv.size → findMagicCookie role.peerCookie l.front l.recv.size = o) ∧
      (l.recv.size ≤ o + 16 →
        findMagicCookie role.peerCookie l.front l.recv.size = 0xFFFFFFFF) := by
  have hne : role.peerCookie ≠ [] := by
    rw [← List.length_pos_iff, role.length_peerCookie]
    decide
  rcases findMagicCookie_cases (l := l) role.length_peerCookie with ⟨heq, hnone⟩ | ⟨hend, hfound⟩
  · refine ⟨fun hlt => absurd ?_ (hnone o hlt), fun _ => heq⟩
    have hhere := hfirst.here
    rw [List.drop_append_of_le_length (by rw [hfits.length_pending]; omega)] at hhere
    refine List.prefix_of_prefix_length_le hhere (List.prefix_append _ later) ?_
    rw [role.length_peerCookie, List.length_drop, hfits.length_pending]
    omega
  · have heq := (hfound.append hne later).unique hfirst
    exact ⟨fun _ => heq, fun hle => by omega⟩

/-- An endpoint with the beginning of a message in front, and without a cookie, waits for the rest. -/
lemma TcpRole.round_of_part (role : TcpRole) (hfits : l.Fits) (hm : TcpFrame cfg m)
    (hpre : l.pending <+: m) (hlt : l.recv.size < m.length)
    (hnone : ∀ i, ¬ role.peerCookie <+: l.pending.drop i) :
    ∃ n, role.round cfg l = (l.miss n, .last) := by
  have hmax := hm.length_lt
  have hsize : l.messageSize = 0 ∧ l.recv.size < 8 ∨ l.messageSize = m.length := by
    rcases Nat.lt_or_ge l.recv.size 8 with h8 | h8
    · exact Or.inl ⟨messageSize_of_lt h8, h8⟩
    · obtain ⟨y, hy⟩ := hpre
      exact Or.inr (messageSize_of_split hfits hm.length hmax h8 (hy.trans (List.append_nil m).symm))
  have hexceeds : TcpLoop.exceeds cfg (getMessageSize l.front l.recv.size) = false := by
    refine exceeds_eq_false (le_trans ?_ hm.max)
    change l.messageSize ≤ m.length
    omega
  have hnot : ¬ findMagicCookie role.peerCookie l.front l.recv.size < l.recv.size := by
    rcases findMagicCookie_cases (l := l) role.length_peerCookie with ⟨heq, -⟩ | ⟨-, hfound⟩
    · omega
    · exact absurd hfound.here (hnone _)
  have hcomplete : ¬ l.Complete := by
    rw [TcpLoop.Complete, someipHeaderSize]
    omega
  rw [TcpLoop.Complete, TcpLoop.messageSize] at hcomplete
  rw [TcpLoop.messageSize] at hsize
  cases role with
  | server =>
    have hresync : TcpServer.resync l = none := if_neg fun hfound => hnot hfound.2.2
    simp only [TcpRole.round, TcpServer.round]
    rw [if_neg hcomplete, hresync]
    simp only [hexceeds, Bool.false_eq_true, if_false]
    rcases hsize with ⟨hzero, h8⟩ | hsize
    · rw [if_neg (by omega), if_pos (by rw [someipHeaderSize]; omega)]
      exact ⟨_, rfl⟩
    · rw [if_pos (by omega)]
      exact ⟨_, rfl⟩
  | client =>
    simp only [TcpRole.round, TcpClient.round]
    rw [if_neg hcomplete]
    simp only [hexceeds, Bool.false_eq_true, if_false]
    rcases hsize with ⟨hzero, h8⟩ | hsize
    · rw [if_neg (by omega), if_pos (by rw [someipHeaderSize]; omega)]
      exact ⟨_, rfl⟩
    · rw [if_pos (by omega)]
      exact ⟨_, rfl⟩

/-- What a safe round does in front of the next cookie if no message is complete: it goes on at the
cookie, it drops bytes in front of the cookie, or it waits for the rest of the cookie. -/
lemma TcpRole.round_of_safeAt (role : TcpRole) (hfits : l.Fits)
    (henabled : l.magicCookiesEnabled = true) (hcomplete : ¬ l.Complete)
    (hfirst : Framing.FirstAt role.peerCookie (l.pending ++ later) o)
    (hsafe : role.SafeAt cfg l o) :
    (∃ errors, TcpEvent.messages errors = [] ∧
        role.round cfg l = ((l.skip o).emit errors, .again)) ∧ o ≤ l.recv.size ∨
      role.round cfg l = (l.reset cfg, .last) ∧ l.recv.size ≤ o ∨
      (∃ n, role.round cfg l = (l.miss n, .last)) ∧ l.recv.size < o + 16 := by
  obtain ⟨hfind, hnot⟩ := findMagicCookie_of_firstAt role hfits hfirst
  obtain ⟨hmax, hsafe⟩ := hsafe.2 hcomplete
  rw [TcpLoop.Complete] at hcomplete
  rw [TcpLoop.messageSize] at hcomplete hsafe
  cases role with
  | server =>
    simp only [TcpRole.round, TcpServer.round]
    rw [if_neg hcomplete]
    rcases Nat.lt_or_ge (o + 16) l.recv.size with hlt | hge
    · left
      obtain ⟨errors, herrors, hresync⟩ := TcpServer.resync_of_found henabled
        (show findMagicCookie TcpRole.server.peerCookie l.front l.recv.size < l.recv.size by
          rw [hfind hlt]; omega)
      refine ⟨⟨errors, herrors, ?_⟩, by omega⟩
      rw [hresync, ← hfind hlt]
      rfl
    · right
      have hresync : TcpServer.resync l = none := if_neg fun hfound => by
        have hlt : findMagicCookie TcpRole.server.peerCookie l.front l.recv.size < l.recv.size :=
          hfound.2.2
        rw [hnot hge] at hlt
        omega
      obtain ⟨hlt, hsafe⟩ := hsafe.resolve_left (by omega)
      rw [hresync]
      dsimp only
      split_ifs at hsafe ⊢ with hexceeds hpart hheader
      · exact Or.inl ⟨rfl, hsafe⟩
      · exact Or.inr ⟨⟨_, rfl⟩, hlt⟩
      · exact Or.inr ⟨⟨_, rfl⟩, hlt⟩
      · rw [someipHeaderSize] at *
        omega
  | client =>
    simp only [TcpRole.round, TcpClient.round]
    rw [if_neg hcomplete]
    dsimp only at hsafe
    rw [someipHeaderSize] at *
    by_cases hexceeds : TcpLoop.exceeds cfg (getMessageSize l.front l.recv.size) = true
    · rw [if_pos hexceeds] at hsafe ⊢
      exact Or.inr (Or.inl ⟨by simp [henabled], hsafe⟩)
    rw [if_neg hexceeds] at hsafe ⊢
    by_cases hpart : (getMessageSize l.front l.recv.size).toNat > l.recv.size
    · rw [if_pos (by omega)] at hsafe
      rw [if_pos hpart]
      exact Or.inr (Or.inr ⟨⟨_, rfl⟩, hsafe⟩)
    rw [if_neg hpart]
    by_cases hheader : 8 > l.recv.size
    · rw [if_pos (by omega)] at hsafe
      rw [if_pos hheader]
      exact Or.inr (Or.inr ⟨⟨_, rfl⟩, hsafe⟩)
    rw [if_neg (by omega)] at hsafe
    rw [if_neg hheader, if_pos ⟨henabled, by omega⟩]
    rcases Nat.lt_or_ge (o + 16) l.recv.size with hlt | hge
    · have hfound := hfind hlt
      rw [TcpRole.peerCookie] at hfound
      rw [hfound, if_pos (by omega)]
      exact Or.inl ⟨⟨[], rfl, by simp [TcpLoop.emit]⟩, by omega⟩
    · have hnone := hnot hge
      rw [TcpRole.peerCookie] at hnone
      rw [hnone, if_neg (by omega)]
      exact Or.inr (Or.inr ⟨⟨l.recv.missingCapacity, rfl⟩, by omega⟩)

end Rounds

/-! ## Getting on in the stream -/

/-- From `l` to `l'` the endpoint gets on in the stream, of which the `later` bytes are not received. -/
structure Advances (cfg : RecvConfig) (cookie q later junk : List UInt8) (items : List (List UInt8))
    (l l' : TcpLoop) (junk' : List UInt8) (items' : List (List UInt8)) : Prop where
  enabled : l'.magicCookiesEnabled = true
  messages : ∃ ms, TcpEvent.messages l'.events = TcpEvent.messages l.events ++ ms ∧
    Progress cookie junk items ms junk' items'
  ahead : Ahead cfg cookie q (l'.pending ++ later) junk' items'

section Advances

variable {cfg : RecvConfig} {l l' l'' : TcpLoop} {q later junk junk' junk'' m : List UInt8}
  {items items' items'' : List (List UInt8)}

/-- A loop advances, and advances again. -/
lemma Advances.trans {cookie : List UInt8}
    (h : Advances cfg cookie q later junk items l l' junk' items')
    (h' : Advances cfg cookie q later junk' items' l' l'' junk'' items'') :
    Advances cfg cookie q later junk items l l'' junk'' items'' := by
  obtain ⟨ms, hms, hprogress⟩ := h.messages
  obtain ⟨ms', hms', hprogress'⟩ := h'.messages
  refine ⟨h'.enabled, ⟨ms ++ ms', ?_, hprogress.trans hprogress'⟩, h'.ahead⟩
  rw [hms', hms, List.append_assoc]

/-- The bytes that are ahead when the first ones are taken away. -/
lemma pending_append_of_drop {k : ℕ} (hpending : l'.pending = l.pending.drop k)
    (hk : k ≤ l.pending.length) : l'.pending ++ later = (l.pending ++ later).drop k := by
  rw [hpending, List.drop_append_of_le_length hk]

/-- A cookie is not empty. -/
lemma TcpRole.peerCookie_ne_nil (role : TcpRole) : role.peerCookie ≠ [] := by
  rw [← List.length_pos_iff, role.length_peerCookie]
  decide

/-- A complete message when junk and a cookie are ahead.

**Proof sketch.** A cookie in front of the received bytes is the one that is ahead. One that is found in
the message is the one that is ahead, too, so that there is no junk any more. If none is found, then the
message lies in the junk, because the round is safe. -/
lemma TcpRole.advances_cookie (role : TcpRole) (hfits : l.Fits)
    (henabled : l.magicCookiesEnabled = true) (hcomplete : l.Complete)
    (hsafe : role.Safe cfg later l) (hjunk : ¬ role.peerCookie <:+: junk)
    (hitems : WellFormed cfg role.peerCookie q items)
    (hsplit : l.pending ++ later = junk ++ (role.peerCookie ++ (items.flatten ++ q))) :
    (role.round cfg l).2 = .again ∧ ∃ junk' items',
      Advances cfg role.peerCookie q later junk (role.peerCookie :: items) l (role.round cfg l).1
        junk' items' := by
  have hfirst : Framing.FirstAt role.peerCookie (l.pending ++ later) junk.length := by
    rw [hsplit]
    exact Framing.firstAt_append role.unbordered_peerCookie hjunk _
  obtain ⟨hfind, hnot⟩ := findMagicCookie_of_firstAt role hfits hfirst
  have hlen := hfits.length_pending
  have h16 := role.length_peerCookie
  obtain ⟨requests, lost, hrequests, hlost, hround⟩ := role.round_of_complete cfg hcomplete
  obtain ⟨henabled', k, ms, hpending, hevents, hbranch⟩ :=
    fullMessage_enabled cfg role hcomplete henabled hrequests hlost rfl
  rw [hround]
  refine ⟨rfl, ?_⟩
  rcases hbranch with ⟨hpre, rfl, rfl⟩ | ⟨-, hcut, rfl, rfl⟩ | ⟨hpre, hlong, rfl, rfl⟩
  · -- the cookie is in front
    obtain rfl : junk = [] := by
      by_contra hne
      refine hfirst.not_before 0 (List.length_pos_iff.mpr hne) ?_
      exact hpre.trans (List.prefix_append _ _)
    have hle : 16 ≤ l.pending.length := by
      rw [← h16]
      exact hpre.length_le
    refine ⟨[], items, henabled', ⟨[], hevents, Progress.of_item ?_⟩, ?_⟩
    · simp [messagesOf]
    · rw [pending_append_of_drop hpending hle, hsplit, List.nil_append, ← h16, List.drop_left]
      exact hitems.ahead role.peerCookie_ne_nil
  · -- the cookie is found in the message
    have hmax := messageSize_le l
    have hend : junk.length + 16 < l.recv.size := by
      by_contra hge
      rw [hnot (by omega)] at hcut
      omega
    rw [hfind hend] at hpending
    refine ⟨[], _, henabled', ⟨[], hevents, Progress.of_junk (Or.inr ⟨rfl, rfl⟩)⟩, ?_⟩
    rw [pending_append_of_drop hpending (by omega), hsplit, List.drop_left]
    exact .cookie (fun hrecord => role.peerCookie_ne_nil (List.eq_nil_of_infix_nil hrecord)) hitems rfl
  · -- the message lies in the junk
    have hle : l.messageSize ≤ junk.length := by
      rcases (hsafe _ hfirst).1 hcomplete with hzero | hle | hend
      · obtain rfl := List.length_eq_zero_iff.mp hzero
        have hheader := hcomplete.1
        have hsize := hcomplete.2
        rw [someipHeaderSize] at hheader
        have heq := messageSize_of_split (m := role.peerCookie) hfits (by cases role <;> rfl)
          (by rw [h16]; decide) (by omega) hsplit
        refine absurd ?_ hpre
        refine List.prefix_of_prefix_length_le ?_ (List.prefix_append l.pending later) (by omega)
        rw [hsplit]
        exact List.prefix_append _ _
      · exact hle
      · rwa [hfind hend] at hlong
    have hpos : 0 < junk.length := lt_of_lt_of_le (Nat.zero_lt_of_lt hcomplete.1) hle
    refine ⟨junk.drop l.messageSize, _, henabled', ⟨_, hevents, Progress.of_junk ?_⟩, ?_⟩
    · exact Or.inl (List.length_pos_iff.mp hpos)
    · refine .cookie (fun hrecord => hjunk ?_) hitems ?_
      · exact hrecord.trans (List.drop_suffix _ junk).isInfix
      · rw [pending_append_of_drop hpending (by rw [hlen]; exact hcomplete.2), hsplit,
          List.drop_append_of_le_length hle]

/-- A complete message when a message is ahead. -/
lemma TcpRole.advances_message (role : TcpRole) (hfits : l.Fits)
    (henabled : l.magicCookiesEnabled = true) (hcomplete : l.Complete) (hm : TcpFrame cfg m)
    (hclear : ∀ i < m.length, ¬ role.peerCookie <+: (l.pending ++ later).drop i)
    (hitems : WellFormed cfg role.peerCookie q items)
    (hsplit : l.pending ++ later = m ++ (items.flatten ++ q)) :
    (role.round cfg l).2 = .again ∧ ∃ junk' items',
      Advances cfg role.peerCookie q later [] (m :: items) l (role.round cfg l).1 junk' items' := by
  have hlen := hfits.length_pending
  have hheader := hcomplete.1
  have hsize := hcomplete.2
  rw [someipHeaderSize] at hheader
  have heq := messageSize_of_split hfits hm.length hm.length_lt (by omega) hsplit
  have hfull := hm.full
  obtain ⟨requests, lost, hrequests, hlost, hround⟩ := role.round_of_complete cfg hcomplete
  obtain ⟨henabled', k, ms, hpending, hevents, hbranch⟩ :=
    fullMessage_enabled cfg role hcomplete henabled hrequests hlost rfl
  rw [hround]
  refine ⟨rfl, ?_⟩
  rcases hbranch with ⟨hpre, -, -⟩ | ⟨-, hcut, -, -⟩ | ⟨-, -, rfl, rfl⟩
  · exact absurd (hpre.trans (List.prefix_append _ later)) (hclear 0 (by omega))
  · have hmax := messageSize_le l
    rcases findMagicCookie_cases (l := l) role.length_peerCookie with ⟨hnone, -⟩ | ⟨hend, hfound⟩
    · omega
    · have hhere := (hfound.append role.peerCookie_ne_nil later).here
      exact absurd hhere (hclear _ (by omega))
  · have htake : l.pending.take l.messageSize = m := by
      have htake := congrArg (List.take m.length) hsplit
      rwa [List.take_append_of_le_length (by omega), List.take_left, ← heq] at htake
    have hne : m ≠ role.peerCookie := by
      rintro rfl
      refine hclear 0 (by omega) ?_
      rw [hsplit]
      exact List.prefix_append _ _
    refine ⟨[], items, henabled', ⟨_, hevents, Progress.of_item ?_⟩, ?_⟩
    · rw [htake]
      simp [messagesOf, hne]
    · rw [pending_append_of_drop hpending (by omega), hsplit, heq, List.drop_left]
      exact hitems.ahead role.peerCookie_ne_nil

end Advances

section Loop

variable {cfg : RecvConfig} {l : TcpLoop} {q later junk m : List UInt8}
  {items : List (List UInt8)}

/-- If nothing comes later, then everything but the rest `q` is done with. -/
def Settled (later junk : List UInt8) (items : List (List UInt8)) : Prop :=
  later = [] → junk = [] ∧ items = []

/-- A round that waits for the rest of a message. -/
lemma TcpRole.advances_part (role : TcpRole) (hfits : l.Fits)
    (henabled : l.magicCookiesEnabled = true) (hm : TcpFrame cfg m) (hpre : l.pending <+: m)
    (hlt : l.recv.size < m.length) (hnone : ∀ i, ¬ role.peerCookie <+: l.pending.drop i)
    (hahead : Ahead cfg role.peerCookie q (l.pending ++ later) junk items) :
    (role.round cfg l).2 = .last ∧
      Advances cfg role.peerCookie q later junk items l (role.round cfg l).1 junk items := by
  obtain ⟨n, hround⟩ := role.round_of_part hfits hm hpre hlt hnone
  rw [hround]
  refine ⟨rfl, henabled, ⟨[], ?_, Progress.refl⟩, hahead⟩
  rw [List.append_nil]
  rfl

/-- A safe round in front of a cookie when no message is complete. -/
lemma TcpRole.advances_search (role : TcpRole) (hfits : l.Fits)
    (henabled : l.magicCookiesEnabled = true) (hcomplete : ¬ l.Complete)
    (hpos : 0 < l.recv.size) (hsafe : role.Safe cfg later l) (hjunk : ¬ role.peerCookie <:+: junk)
    (hitems : WellFormed cfg role.peerCookie q items)
    (hsplit : l.pending ++ later = junk ++ (role.peerCookie ++ (items.flatten ++ q))) :
    (role.round cfg l).2 ≠ .stop ∧ ∃ junk' items',
      ((role.round cfg l).2 = .last → Settled later junk' items') ∧
      Advances cfg role.peerCookie q later junk (role.peerCookie :: items) l (role.round cfg l).1
        junk' items' := by
  have hfirst : Framing.FirstAt role.peerCookie (l.pending ++ later) junk.length := by
    rw [hsplit]
    exact Framing.firstAt_append role.unbordered_peerCookie hjunk _
  have hlen := hfits.length_pending
  have h16 := role.length_peerCookie
  have hlength := congrArg List.length hsplit
  simp only [List.length_append] at hlength
  rcases role.round_of_safeAt hfits henabled hcomplete hfirst (hsafe _ hfirst) with
    ⟨⟨errors, herrors, hround⟩, hle⟩ | ⟨hround, hle⟩ | ⟨⟨n, hround⟩, hlt⟩
  · -- on at the cookie
    have hpending : ((l.skip junk.length).emit errors).pending = l.pending.drop junk.length :=
      pending_eq_drop rfl rfl rfl
    rw [hround]
    refine ⟨by simp, [], role.peerCookie :: items, fun hlast => absurd hlast (by simp), henabled,
      ⟨[], ?_, Progress.of_junk (Or.inr ⟨rfl, rfl⟩)⟩, .cookie (fun hrecord => ?_) hitems ?_⟩
    · simp only [TcpLoop.emit, TcpLoop.skip, messages_append, herrors]
    · exact role.peerCookie_ne_nil (List.eq_nil_of_infix_nil hrecord)
    · rw [pending_append_of_drop hpending (by omega), hsplit, List.drop_left]
      rfl
  · -- everything that is pending is junk
    rw [hround]
    refine ⟨by simp, junk.drop l.recv.size, role.peerCookie :: items, fun _ hnil => ?_, henabled,
      ⟨[], (List.append_nil _).symm, Progress.of_junk (Or.inl ?_)⟩,
      .cookie (fun hrecord => ?_) hitems ?_⟩
    · rw [hnil, List.length_nil] at hlength
      omega
    · rw [← List.length_pos_iff]
      omega
    · exact hjunk (hrecord.trans (List.drop_suffix _ junk).isInfix)
    · have hdrop := congrArg (List.drop l.recv.size) hsplit
      rw [← hlen, List.drop_left, hlen, List.drop_append_of_le_length hle] at hdrop
      rw [← hdrop]
      simp [TcpLoop.pending, TcpLoop.reset, RecvBuffer.content]
  · -- the cookie is not received yet
    rw [hround]
    refine ⟨by simp, junk, role.peerCookie :: items, fun _ hnil => ?_, henabled,
      ⟨[], (List.append_nil _).symm, Progress.refl⟩, .cookie hjunk hitems hsplit⟩
    rw [hnil, List.length_nil] at hlength
    omega

/-- A safe round gets on in the stream, and it is not the end of the connection. -/
lemma TcpRole.advances_round (role : TcpRole) (hfits : l.Fits)
    (henabled : l.magicCookiesEnabled = true) (hpos : 0 < l.recv.size)
    (hsafe : role.Safe cfg later l)
    (h : Ahead cfg role.peerCookie q (l.pending ++ later) junk items) :
    (role.round cfg l).2 ≠ .stop ∧ ∃ junk' items',
      ((role.round cfg l).2 = .last → Settled later junk' items') ∧
      Advances cfg role.peerCookie q later junk items l (role.round cfg l).1 junk' items' := by
  have hlen := hfits.length_pending
  have hahead := h
  cases h with
  | cookie hjunk hitems hsplit =>
    by_cases hcomplete : l.Complete
    · obtain ⟨hagain, junk', items', hadvances⟩ :=
        role.advances_cookie hfits henabled hcomplete hsafe hjunk hitems hsplit
      rw [hagain]
      exact ⟨by simp, junk', items', fun hlast => absurd hlast (by simp), hadvances⟩
    · exact role.advances_search hfits henabled hcomplete hpos hsafe hjunk hitems hsplit
  | @message m items hm hclear hitems hsplit =>
    have hfull := hm.full
    rcases Nat.lt_or_ge l.recv.size m.length with hlt | hge
    · have hpre : l.pending <+: m := by
        refine List.prefix_of_prefix_length_le (List.prefix_append _ later) ?_ (by omega)
        rw [hsplit]
        exact List.prefix_append m _
      have hnone (i : ℕ) : ¬ role.peerCookie <+: l.pending.drop i := by
        intro hhere
        have hend := le_of_prefix_drop role.length_peerCookie hhere
        refine hclear i (by omega) ?_
        rw [List.drop_append_of_le_length (by omega)]
        exact List.prefix_append_of_prefix hhere
      have hlater : later ≠ [] := by
        rintro rfl
        have hlength := congrArg List.length hsplit
        simp only [List.length_append, List.length_nil] at hlength
        omega
      obtain ⟨hlast, hadvances⟩ := role.advances_part hfits henabled hm hpre hlt hnone hahead
      rw [hlast]
      exact ⟨by simp, [], _, fun _ hnil => absurd hnil hlater, hadvances⟩
    · have hcomplete : l.Complete := by
        have heq := messageSize_of_split hfits hm.length hm.length_lt (by omega) hsplit
        rw [TcpLoop.Complete, someipHeaderSize]
        omega
      obtain ⟨hagain, junk', items', hadvances⟩ :=
        role.advances_message hfits henabled hcomplete hm hclear hitems hsplit
      rw [hagain]
      exact ⟨by simp, junk', items', fun hlast => absurd hlast (by simp), hadvances⟩
  | rest hpart hclear hq =>
    have hpre : l.pending <+: q := by
      rw [← hq]
      exact List.prefix_append _ later
    obtain ⟨m, hm, hqm, hlt⟩ : ∃ m, TcpFrame cfg m ∧ q <+: m ∧ q.length < m.length := by
      refine hpart.resolve_left ?_
      rintro rfl
      have hnil := List.eq_nil_of_prefix_nil hpre
      rw [hnil, List.length_nil] at hlen
      omega
    have hnone (i : ℕ) : ¬ role.peerCookie <+: l.pending.drop i := fun hhere =>
      hclear ((Framing.infix_of_prefix_drop hhere).trans hpre.isInfix)
    have hle := hpre.length_le
    obtain ⟨hlast, hadvances⟩ := role.advances_part hfits henabled hm (hpre.trans hqm) (by omega)
      hnone hahead
    rw [hlast]
    exact ⟨by simp, [], [], fun _ _ => ⟨rfl, rfl⟩, hadvances⟩

/-- When the whole stream is received and done with, nothing is ahead. -/
lemma Ahead.eq_nil {role : TcpRole} (h : Ahead cfg role.peerCookie q [] junk items) :
    junk = [] ∧ items = [] := by
  cases h with
  | cookie _ _ hsplit =>
    have hlength := congrArg List.length hsplit
    simp only [List.length_append, List.length_nil, role.length_peerCookie] at hlength
    omega
  | message hm _ _ hsplit =>
    have hfull := hm.full
    have hlength := congrArg List.length hsplit
    simp only [List.length_append, List.length_nil] at hlength
    omega
  | rest => exact ⟨rfl, rfl⟩

/-- If all rounds are safe, then the loop gets on in the stream, and does not end the connection.

**Proof sketch.** Induction on the fuel. A round that goes on has taken bytes away; when the loop ends
because nothing is pending, then only the later bytes are ahead. -/
lemma TcpRole.advances_tcpLoop (role : TcpRole) : ∀ (fuel : ℕ) {l : TcpLoop} {junk : List UInt8}
    {items : List (List UInt8)}, l.Fits → l.magicCookiesEnabled = true → 0 < l.recv.size →
    l.recv.size < fuel → l.Along (role.round cfg) (role.Safe cfg later) fuel →
    Ahead cfg role.peerCookie q (l.pending ++ later) junk items →
    (tcpLoop (role.round cfg) fuel l).2 = false ∧ ∃ junk' items',
      Settled later junk' items' ∧
      Advances cfg role.peerCookie q later junk items l (tcpLoop (role.round cfg) fuel l).1
        junk' items'
  | 0, _, _, _, _, _, _, hfuel, _, _ => absurd hfuel (Nat.not_lt_zero _)
  | fuel + 1, l, junk, items, hfits, henabled, hpos, hfuel, hsafe, hahead => by
    obtain ⟨hstop, junk', items', hlast, hadvances⟩ :=
      role.advances_round hfits henabled hpos hsafe.1 hahead
    by_cases hnext : (role.round cfg l).2 = .again ∧ (role.round cfg l).1.recv.size ≠ 0
    · obtain ⟨hfits', hlt⟩ := role.fits_round cfg hfits hnext.1
      rw [tcpLoop_again hnext]
      obtain ⟨hfalse, junk'', items'', hsettled, hadvances'⟩ :=
        TcpRole.advances_tcpLoop role fuel hfits' hadvances.enabled (Nat.pos_of_ne_zero hnext.2)
          (by omega) (hsafe.2 hnext.1 hnext.2) hadvances.ahead
      exact ⟨hfalse, junk'', items'', hsettled, hadvances.trans hadvances'⟩
    · rw [tcpLoop_last hnext]
      refine ⟨by simpa using hstop, junk', items', ?_, hadvances⟩
      cases houtcome : (role.round cfg l).2 with
      | last => exact hlast houtcome
      | stop => exact absurd houtcome hstop
      | again =>
        have hzero : (role.round cfg l).1.recv.size = 0 := by
          by_contra hne
          exact hnext ⟨houtcome, hne⟩
        intro hnil
        have hpending : (role.round cfg l).1.pending = [] := by
          rw [TcpLoop.pending, RecvBuffer.content, hzero, List.take_zero]
        have hend := hadvances.ahead
        rw [hpending, hnil, List.append_nil] at hend
        exact hend.eq_nil

end Loop

/-! ## Callbacks -/

/-- The pending bytes are in the buffer, and so is the room that a waiting receiver offers. -/
def TcpReceiver.Sound (r : TcpReceiver) : Prop :=
  r.recv.size ≤ r.recv.buffer.length ∧
    (r.receiving = true → r.recv.size + r.recv.offered ≤ r.recv.buffer.length)

section Callback

variable {cfg : RecvConfig} {r : TcpReceiver} {bytes c : List UInt8}

/-- How the loop ends: with the pending bytes in the buffer. -/
lemma TcpRole.tcpLoop_end (cfg : RecvConfig) (role : TcpRole) {l : TcpLoop} (hfits : l.Fits) :
    let ended := tcpLoop (role.round cfg) (l.recv.size + 1) l
    if ended.2 then ended.1.recv.size ≤ ended.1.recv.buffer.length
    else ended.1.Fits ∨ ended.1.recv.size = 0 := by
  obtain ⟨Lost, hkeeps⟩ := role.keepsRoom cfg
  rcases hloop : tcpLoop (role.round cfg) (l.recv.size + 1) l with ⟨l', stopped⟩
  have hend := hkeeps.roomy_tcpLoop hfits (Nat.lt_succ_self _) hloop
  cases stopped with
  | true => exact hend
  | false =>
    rcases hend with (⟨hzero, -⟩ | ⟨hfits', -⟩) | ⟨rfl, -⟩
    · exact Or.inr hzero
    · exact Or.inl hfits'
    · exact Or.inl hfits

/-- The receiver waits behind the bytes that the loop has left. -/
lemma ready_of_loop (cfg : RecvConfig) {l : TcpLoop} (h : l.Fits ∨ l.recv.size = 0) :
    ((if l.iterationGap ≠ 0 then l.recv.shift l.iterationGap else l.recv).receive cfg).Ready
      l.pending := by
  split_ifs with hgap
  · rcases h with hfits | hzero
    · have hready := RecvBuffer.ready_receive cfg (b := l.recv.shift l.iterationGap) (by
        rw [RecvBuffer.length_buffer_shift hfits]
        exact le_trans (Nat.le_add_left _ _) hfits)
      rwa [RecvBuffer.content_shift hfits] at hready
    · have hsize : (l.recv.shift l.iterationGap).size = 0 := hzero
      have hready := RecvBuffer.ready_receive cfg (b := l.recv.shift l.iterationGap) (by
        rw [hsize]
        exact Nat.zero_le _)
      rw [RecvBuffer.content, hsize, List.take_zero] at hready
      rwa [TcpLoop.pending, RecvBuffer.content, hzero, List.take_zero]
  · have hzero : l.iterationGap = 0 := not_not.mp hgap
    have hle : l.recv.size ≤ l.recv.buffer.length := by
      rcases h with hfits | hnil
      · exact le_trans (Nat.le_add_left _ _) hfits
      · rw [hnil]
        exact Nat.zero_le _
    have hready := RecvBuffer.ready_receive cfg hle
    rwa [TcpLoop.pending, hzero]

/-- A receiver whose buffer is ready is sound. -/
lemma RecvBuffer.Ready.sound {recv : RecvBuffer} {p : List UInt8} (h : recv.Ready p)
    (enabled receiving : Bool) : TcpReceiver.Sound ⟨recv, enabled, receiving⟩ :=
  ⟨le_trans (Nat.le_add_right _ _) h.room, fun _ => h.room⟩

/-- What received bytes do, by the state in which the loop ends. -/
lemma TcpRole.tcpReceived_spec (cfg : RecvConfig) (role : TcpRole)
    (hfits : TcpLoop.Fits ⟨r.recv.store bytes, r.magicCookiesEnabled, 0, []⟩) :
    let ended := tcpLoop (role.round cfg) ((r.recv.store bytes).size + 1)
      ⟨r.recv.store bytes, r.magicCookiesEnabled, 0, []⟩
    let r' := (tcpReceived cfg (role.round cfg) r bytes).1
    (tcpReceived cfg (role.round cfg) r bytes).2 = ended.1.events ∧ r'.Sound ∧
      r'.magicCookiesEnabled = ended.1.magicCookiesEnabled ∧
      (ended.2 = false → r'.receiving = true ∧ r'.recv.Ready ended.1.pending) := by
  have hend := role.tcpLoop_end cfg hfits
  dsimp only at hend ⊢
  rw [tcpReceived]
  dsimp only
  rcases hloop : tcpLoop (role.round cfg) ((r.recv.store bytes).size + 1)
    ⟨r.recv.store bytes, r.magicCookiesEnabled, 0, []⟩ with ⟨l, stopped⟩
  rw [hloop] at hend
  cases stopped with
  | true =>
    refine ⟨rfl, ⟨hend, fun hreceiving => absurd hreceiving Bool.false_ne_true⟩, rfl, ?_⟩
    exact fun hfalse => absurd hfalse (by simp)
  | false =>
    have hready := ready_of_loop cfg hend
    exact ⟨rfl, hready.sound _ _, rfl, fun _ => ⟨rfl, hready⟩⟩

/-- The loop begins with the received bytes behind the pending ones. -/
lemma TcpRole.loop_spec (role : TcpRole) (h : r.Sound) (hreceiving : r.receiving = true)
    (hle : bytes.length ≤ r.recv.offered) :
    (role.loop r bytes).Fits ∧ (role.loop r bytes).pending = r.recv.content 0 ++ bytes ∧
      (role.loop r bytes).recv.size = r.recv.size + bytes.length := by
  have hroom := h.2 hreceiving
  have hfit : (role.prepared r).recv.size + bytes.length ≤ (role.prepared r).recv.buffer.length := by
    cases role with
    | server => exact le_trans (Nat.add_le_add_left hle _) hroom
    | client => exact le_trans (Nat.add_le_add_left hle _) hroom
  refine ⟨?_, ?_, ?_⟩
  · rw [TcpLoop.Fits, TcpRole.loop, RecvBuffer.length_buffer_store hfit, Nat.zero_add]
    exact hfit
  · rw [TcpLoop.pending, TcpRole.loop, RecvBuffer.content_store hfit]
    cases role <;> rfl
  · cases role <;> rfl

/-- A callback with a chunk. -/
lemma TcpRole.step_spec (cfg : RecvConfig) (role : TcpRole) (h : r.Sound) (hacc : r.Accepts c) :
    let ended := tcpLoop (role.round cfg) ((role.loop r c).recv.size + 1) (role.loop r c)
    let r' := (role.step cfg r c).1
    (role.step cfg r c).2 = TcpEvent.messages ended.1.events ∧ r'.Sound ∧
      r'.magicCookiesEnabled = ended.1.magicCookiesEnabled ∧
      (ended.2 = false → r'.receiving = true ∧ r'.recv.Ready ended.1.pending) := by
  obtain ⟨hreceiving, hne, hle⟩ := hacc
  have hfits := (role.loop_spec h hreceiving hle).1
  have hstep : role.step cfg r c = ((tcpReceived cfg (role.round cfg) (role.prepared r) c).1,
      TcpEvent.messages (tcpReceived cfg (role.round cfg) (role.prepared r) c).2) := by
    cases role with
    | server =>
      simp only [TcpRole.step, TcpServer.step, TcpServer.receiveCbk]
      rw [if_pos ⟨trivial, hne⟩]
      rfl
    | client =>
      simp only [TcpRole.step, TcpClient.step, TcpClient.receiveCbk]
      rw [if_neg (by decide), if_pos ⟨trivial, hne⟩]
      rfl
  have hloop : role.loop r c =
      ⟨(role.prepared r).recv.store c, (role.prepared r).magicCookiesEnabled, 0, []⟩ := by
    cases role <;> rfl
  rw [hstep]
  rw [hloop] at hfits ⊢
  obtain ⟨hevents, hsound, henabled, hready⟩ := role.tcpReceived_spec cfg hfits
  exact ⟨congrArg TcpEvent.messages hevents, hsound, henabled, hready⟩

end Callback

/-! ## Runs -/

namespace TcpRole

variable {cfg : RecvConfig} {r : TcpReceiver}

/-- Every callback leaves the pending bytes in the buffer. -/
lemma sound_callback (cfg : RecvConfig) (role : TcpRole) (h : r.Sound) (a : ErrorCode × List UInt8) :
    (r.step (role.receiveCbk cfg) a).Sound := by
  rw [TcpReceiver.step]
  split_ifs with hreceiving
  · have hnot : TcpReceiver.Sound { r with receiving := false } :=
      ⟨h.1, fun hwaits => absurd hwaits Bool.false_ne_true⟩
    set bytes := a.2.take r.recv.offered with hbytes
    have hle : bytes.length ≤ r.recv.offered := by
      rw [hbytes, List.length_take]
      exact Nat.min_le_left _ _
    have hfits := (role.loop_spec h hreceiving hle).1
    cases role with
    | server =>
      simp only [receiveCbk, TcpServer.receiveCbk]
      split_ifs
      · exact (server.tcpReceived_spec cfg (r := server.prepared r) hfits).2.1
      · exact hnot
      · exact hnot
    | client =>
      simp only [receiveCbk, TcpClient.receiveCbk]
      split_ifs
      · exact hnot
      · exact (client.tcpReceived_spec cfg (r := client.prepared r) hfits).2.1
      · exact hnot
      · exact (RecvBuffer.ready_receive cfg (b := { r.recv with missingCapacity := 0 }) h.1).sound _ _
  · exact h

/-- A new receiver is sound. -/
lemma sound_start (cfg : RecvConfig) (role : TcpRole) (enabled : Bool) :
    (role.start cfg enabled).Sound := by
  cases role with
  | server => exact (RecvBuffer.ready_init cfg).sound _ _
  | client => exact (RecvBuffer.ready_init cfg).sound _ _

/-- In a run, what is delivered contains no cookie exactly if no round misses one. -/
lemma clean_run_iff (cfg : RecvConfig) (role : TcpRole) (hsound : r.Sound)
    (henabled : r.magicCookiesEnabled = true) {cs : List (List UInt8)}
    (hcut : Framing.Cut (role.step cfg) TcpReceiver.Accepts r cs) :
    (∀ m ∈ (Framing.run (role.step cfg) r cs).2, ¬ role.peerCookie <:+: m) ↔
      role.RoundsAlong cfg (fun _ l => ¬ l.Missed role.peerCookie) r cs := by
  refine Framing.forall_run_iff (I := fun r => r.Sound ∧ r.magicCookiesEnabled = true) ?_
    ⟨hsound, henabled⟩ hcut
  intro r c later ⟨hsound, henabled⟩ hacc
  obtain ⟨hmessages, hsound', henabled', -⟩ := role.step_spec cfg hsound hacc
  obtain ⟨hended, ms, hms, hclean⟩ := role.clean_tcpLoop_iff cfg
    ((role.loop r c).recv.size + 1) (role.loop_spec hsound hacc.1 hacc.2.2).1 henabled
  refine ⟨⟨hsound', henabled'.trans hended⟩, ?_⟩
  rw [hmessages, hms]
  exact hclean

/-- What is ahead of a receiver in the stream. -/
def Before (cfg : RecvConfig) (role : TcpRole) (q : List UInt8) (r : TcpReceiver)
    (stream : List UInt8) (x : List UInt8 × List (List UInt8)) : Prop :=
  r.Sound ∧ r.magicCookiesEnabled = true ∧
    Ahead cfg role.peerCookie q (r.recv.content 0 ++ stream) x.1 x.2

/-- What is ahead of a receiver after a callback. -/
def After (cfg : RecvConfig) (role : TcpRole) (q : List UInt8) (r : TcpReceiver)
    (later : List UInt8) (x : List UInt8 × List (List UInt8)) : Prop :=
  role.Before cfg q r later x ∧ r.receiving = true ∧ r.recv.Ready (r.recv.content 0) ∧
    Settled later x.1 x.2

/-- A callback with safe rounds gets on in the stream. -/
lemma after_step (cfg : RecvConfig) (role : TcpRole) {q c later : List UInt8}
    {x : List UInt8 × List (List UInt8)} (h : role.Before cfg q r (c ++ later) x)
    (hacc : r.Accepts c) (hsafe : TcpLoop.Along (role.round cfg) (role.Safe cfg later)
      ((role.loop r c).recv.size + 1) (role.loop r c)) :
    ∃ y, role.After cfg q (role.step cfg r c).1 later y ∧
      Progress role.peerCookie x.1 x.2 (role.step cfg r c).2 y.1 y.2 := by
  obtain ⟨hsound, henabled, hahead⟩ := h
  obtain ⟨hfits, hpending, hsize⟩ := role.loop_spec hsound hacc.1 hacc.2.2
  have hpos : 0 < c.length := List.length_pos_iff.mpr hacc.2.1
  rw [← List.append_assoc, ← hpending] at hahead
  obtain ⟨hfalse, junk', items', hsettled, hadvances⟩ := role.advances_tcpLoop
    ((role.loop r c).recv.size + 1) hfits henabled (by omega) (Nat.lt_succ_self _) hsafe hahead
  obtain ⟨hmessages, hsound', henabled', hready⟩ := role.step_spec cfg hsound hacc
  obtain ⟨hreceiving, hready⟩ := hready hfalse
  obtain ⟨ms, hms, hprogress⟩ := hadvances.messages
  have hahead' := hadvances.ahead
  rw [← hready.content] at hahead'
  refine ⟨(junk', items'), ⟨⟨hsound', henabled'.trans hadvances.enabled, hahead'⟩, hreceiving, ?_,
    hsettled⟩, ?_⟩
  · rw [hready.content]
    exact hready
  · rw [hmessages, hms]
    exact hprogress

/-- The first cookie behind junk is found, and every message behind it is delivered: these messages are
the last ones that are delivered, and what is pending then is the beginning of the next one. -/
def Resyncs (cfg : RecvConfig) (role : TcpRole) (r : TcpReceiver) (cs : List (List UInt8)) : Prop :=
  ∀ (junk q : List UInt8) (items : List (List UInt8)), ¬ role.peerCookie <:+: junk →
    WellFormed cfg role.peerCookie q items →
    r.recv.content 0 ++ cs.flatten = junk ++ (role.peerCookie ++ (items.flatten ++ q)) →
    (r.recv.content 0).length < junk.length + 16 →
    messagesOf role.peerCookie items <:+ (Framing.run (role.step cfg) r cs).2 ∧
      (Framing.run (role.step cfg) r cs).1.receiving = true ∧
      (Framing.run (role.step cfg) r cs).1.recv.Ready q

/-- If all rounds are safe, then the first cookie is found. -/
lemma resyncs_of_safe (cfg : RecvConfig) (role : TcpRole) (hsound : r.Sound)
    (henabled : r.magicCookiesEnabled = true) {cs : List (List UInt8)}
    (hcut : Framing.Cut (role.step cfg) TcpReceiver.Accepts r cs)
    (hsafe : role.RoundsAlong cfg (role.Safe cfg) r cs) : role.Resyncs cfg r cs := by
  intro junk q items hjunk hitems hsplit hlt
  cases cs with
  | nil =>
    have hlength := congrArg List.length hsplit
    simp only [List.flatten_nil, List.length_append, List.length_nil, role.length_peerCookie]
      at hlength
    omega
  | cons c cs =>
    obtain ⟨⟨junk', items'⟩, ⟨⟨-, -, hahead⟩, hreceiving, hready, hsettled⟩, hprogress⟩ :=
      Framing.exists_run (B := role.Before cfg q) (A := role.After cfg q)
        (R := fun x ms y => Progress role.peerCookie x.1 x.2 ms y.1 y.2)
        (role.after_step cfg) And.left Progress.trans (x := (junk, role.peerCookie :: items))
        ⟨hsound, henabled, .cookie hjunk hitems (by simpa using hsplit)⟩ hcut hsafe
    obtain ⟨rfl, rfl⟩ := hsettled rfl
    refine ⟨?_, hreceiving, ?_⟩
    · have hsuffix := hprogress.suffix
      simpa [messagesOf] using hsuffix
    · cases hahead with
      | rest _ _ hq =>
        rw [List.append_nil] at hq
        rwa [hq] at hready

/-- A safe round does not miss a cookie. -/
lemma not_missed_of_safe (role : TcpRole) {later : List UInt8} {l : TcpLoop}
    (hsafe : role.Safe cfg later l) : ¬ l.Missed role.peerCookie := by
  rintro ⟨-, hlt, hsize, hfirst⟩
  have hcomplete : l.Complete := by
    rw [TcpLoop.Complete, someipHeaderSize]
    omega
  have hat := (hsafe _ (hfirst.append role.peerCookie_ne_nil later)).1 hcomplete
  omega

/-- **Both endpoints, from every state that can be reached and in which magic cookies are enabled: no
message that is delivered contains a cookie exactly if no round misses one, and if all rounds are safe,
then the first cookie behind any junk is found and every message behind it is delivered.** -/
theorem resynchronises (cfg : RecvConfig) (role : TcpRole) (enabled : Bool)
    (pre : List (ErrorCode × List UInt8)) {r : TcpReceiver}
    (hr : r = Runs.run (TcpReceiver.step (role.receiveCbk cfg)) (role.start cfg enabled) pre)
    (henabled : r.magicCookiesEnabled = true) {cs : List (List UInt8)}
    (hcut : Framing.Cut (role.step cfg) TcpReceiver.Accepts r cs) :
    ((∀ m ∈ (Framing.run (role.step cfg) r cs).2, ¬ role.peerCookie <:+: m) ↔
        role.RoundsAlong cfg (fun _ l => ¬ l.Missed role.peerCookie) r cs) ∧
      (role.RoundsAlong cfg (role.Safe cfg) r cs →
        (∀ m ∈ (Framing.run (role.step cfg) r cs).2, ¬ role.peerCookie <:+: m) ∧
          role.Resyncs cfg r cs) := by
  have hsound : r.Sound := by
    rw [hr]
    exact Runs.inv_run (I := TcpReceiver.Sound) (P := fun _ => True)
      (fun h _ => role.sound_callback cfg h _)
      (role.sound_start cfg enabled) fun _ _ => trivial
  have hclean := role.clean_run_iff cfg hsound henabled hcut
  refine ⟨hclean, fun hsafe => ⟨hclean.mpr ?_, role.resyncs_of_safe cfg hsound henabled hcut hsafe⟩⟩
  exact hsafe.imp fun r c later hrounds => hrounds.imp fun l => role.not_missed_of_safe

/-- A byte of junk and a cookie arrive, and a request in two parts behind them. -/
theorem resynchronises_requestMessage :
    let cs := [[0] ++ clientCookie ++ requestMessage.take 15, requestMessage.drop 15]
    let run := Framing.run (server.step TcpServer.unlimited) (server.start TcpServer.unlimited true) cs
    (∀ m ∈ run.2, ¬ clientCookie <:+: m) ∧ [requestMessage] <:+ run.2 ∧ run.1.receiving = true ∧
      run.1.recv.Ready [] := by
  have hcut : Framing.Cut (server.step TcpServer.unlimited) TcpReceiver.Accepts
      (server.start TcpServer.unlimited true)
      [[0] ++ clientCookie ++ requestMessage.take 15, requestMessage.drop 15] :=
    ⟨⟨by decide, by decide, by decide⟩, ⟨by decide, by decide, by decide⟩, trivial⟩
  have hmessage : WellFormed TcpServer.unlimited clientCookie [] [requestMessage] :=
    .message ⟨by decide, by decide, by decide⟩ (by decide) (.rest (Or.inl rfl) (by decide))
  obtain ⟨hclean, hresyncs⟩ :=
    (resynchronises TcpServer.unlimited server true [] rfl rfl hcut).2 (by
      unfold RoundsAlong
      decide +kernel)
  exact ⟨hclean, hresyncs [0] [] [requestMessage] (by decide) hmessage (by decide) (by decide)⟩

/-- A message whose last bytes are a cookie. -/
def cookieMessage : List UInt8 :=
  [0x12, 0x34, 0x00, 0x01, 0x00, 0x00, 0x00, 0x18, 0x13, 0x13, 0x00, 0x01, 0x01, 0x00, 0x00, 0x00] ++
    clientCookie

/-- The server gets that message, and nothing behind it. -/
theorem not_resynchronises : ¬ ∀ (cfg : RecvConfig) (role : TcpRole) (cs : List (List UInt8)),
    Framing.Cut (role.step cfg) TcpReceiver.Accepts (role.start cfg true) cs →
      (∀ m ∈ (Framing.run (role.step cfg) (role.start cfg true) cs).2, ¬ role.peerCookie <:+: m) ∧
        role.Resyncs cfg (role.start cfg true) cs := by
  intro h
  obtain ⟨hclean, -⟩ := h TcpServer.unlimited server [cookieMessage]
    ⟨⟨by decide, by decide, by decide⟩, trivial⟩
  exact hclean cookieMessage (by decide) (by decide)

end TcpRole

end Vsomeip
