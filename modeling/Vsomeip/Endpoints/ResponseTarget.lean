import Mathlib.Data.List.Basic
import Vsomeip.Endpoints.ServerEndpoint
import Vsomeip.Endpoints.Tcp
import Vsomeip.Lib.Runs

set_option relaxedAutoImplicit false
set_option autoImplicit false

/-!
# Targets of responses

A server endpoint remembers in `clients_`, by client and session, from which remote endpoint a request
has come. `server_endpoint_impl::send` looks a response up there, erases the entry and gives the
response to `send_intern` for the remote. The receive loops of TCP connections and of a UDP endpoint do
the same with a message that they forward, so a step of theirs is one such message. Clients and sessions
are copied as they stand in a message, without regard to the byte order. The endpoint is not stopped.

Requests without a return are remembered as well, and their entries stay until a request with the same
client and session replaces them.

## Main definitions

* `Vsomeip.ResponseTarget` — `clients_` with what is sent, and the requests that are outstanding.
* `Vsomeip.ResponseTarget.remember`, `Vsomeip.ResponseTarget.send` — what the receive loops do with a
  request, and `server_endpoint_impl::send`.
* `Vsomeip.ResponseTarget.Returns` — a response goes to where its request has come from.

## Main results

* `Vsomeip.ResponseTarget.returns_along` — this holds along every run in which the outstanding requests
  are told apart by client and session.
-/

namespace Vsomeip

/-- `utility::is_request_no_return` on the byte of a message type. -/
def isRequestNoReturn (type : UInt8) : Bool := type = 0x01 || type = 0x41

/-- The client and the session of a message, as they are copied from it. -/
def clientSession (data : List UInt8) : UInt16 × UInt16 :=
  (bytesToWord (data.getD 9 0) (data.getD 8 0), bytesToWord (data.getD 11 0) (data.getD 10 0))

/-- A request that was received. -/
structure ReceivedRequest (Remote : Type) where
  remote : Remote
  id : UInt16 × UInt16
  noReturn : Bool

/-- The part of a server endpoint that is about responses. -/
structure ResponseTarget (Remote : Type) where
  /-- `clients_`, a map of maps. -/
  clients : UInt16 → Option (UInt16 → Option Remote)
  endpoint : ServerEndpoint Remote
  /-- The calls of `send_intern`, with the target and the data. -/
  handed : List (Remote × List UInt8)
  /-- The requests that have been received and for which no response was sent since. -/
  outstanding : List (ReceivedRequest Remote)

/-- What a server endpoint is made with. -/
structure ServerConfig (Remote : Type) where
  sending : SendConfig
  /-- `get_default_target`, which there is for UDP only. -/
  defaultTarget : UInt16 → Option Remote

namespace ResponseTarget

variable {Remote : Type}

/-- A new endpoint. -/
def init : ResponseTarget Remote :=
  ⟨fun _ => none, .init, [], []⟩

variable (s : ResponseTarget Remote)

/-- The remote endpoint that is remembered for a client and a session. -/
def lookup (id : UInt16 × UInt16) : Option Remote :=
  (s.clients id.1).bind fun sessions => sessions id.2

/-- What is remembered of a client and a session is changed. -/
def set (id : UInt16 × UInt16) (remote : Option Remote) : ResponseTarget Remote :=
  { s with
    clients := Function.update s.clients id.1
      (some (Function.update ((s.clients id.1).getD fun _ => none) id.2 remote)) }

/-- What a receive loop does with a message of a remote endpoint that it forwards. -/
def remember (remote : Remote) (front : List UInt8) : ResponseTarget Remote :=
  let id := clientSession front
  if isRequest (front.getD 14 0) then
    { s.set id (some remote) with
      outstanding := s.outstanding.filter (fun r => r.id ≠ id) ++
        [⟨remote, id, isRequestNoReturn (front.getD 14 0)⟩] }
  else s

variable [DecidableEq Remote] (cfg : ServerConfig Remote)

/-- The call of `send_intern`. -/
def hand (target : Remote) (data : List UInt8) (flush : Bool) : ResponseTarget Remote :=
  { s with
    endpoint := s.endpoint.step cfg.sending (target, .sendIntern data flush)
    handed := s.handed ++ [(target, data)] }

/-- `server_endpoint_impl::send`. -/
def send (data : List UInt8) (flush : Bool) : ResponseTarget Remote :=
  if 11 < data.length then
    let service := bytesToWord (data.getD 1 0) (data.getD 0 0)
    let id := clientSession data
    let s' :=
      match s.clients id.1 with
      | some sessions =>
        match sessions id.2 with
        | some target => (s.set id none).hand cfg target data flush
        | none => s
      | none =>
        match cfg.defaultTarget service with
        | some target => s.hand cfg target data flush
        | none => s
    { s' with outstanding := s.outstanding.filter fun r => r.id ≠ id }
  else s

/-! ## Runs -/

/-- What happens to the endpoint: the receive loop of a remote endpoint is at a message, or a message is
sent. -/
inductive Action (Remote : Type)
  | receive (remote : Remote) (front : List UInt8)
  | send (data : List UInt8) (flush : Bool)

/-- The endpoint after an action. -/
def step (s : ResponseTarget Remote) : Action Remote → ResponseTarget Remote
  | .receive remote front => s.remember remote front
  | .send data flush => s.send cfg data flush

/-- A request that is received does not have the client and the session of an outstanding request that
is to be answered. -/
def Distinct (s : ResponseTarget Remote) : Action Remote → Prop
  | .receive _ front => isRequest (front.getD 14 0) →
    ∀ r ∈ s.outstanding, r.id = clientSession front → r.noReturn
  | .send .. => True

instance (s : ResponseTarget Remote) : DecidablePred s.Distinct
  | .receive _ front => inferInstanceAs (Decidable (isRequest (front.getD 14 0) →
      ∀ r ∈ s.outstanding, r.id = clientSession front → r.noReturn))
  | .send .. => inferInstanceAs (Decidable True)

/-- A response goes to the remote endpoint of its request and to no other one. It is the only one for
the request, which is not outstanding any more, and nothing is changed for other requests. -/
def Returns (s : ResponseTarget Remote) : Action Remote → Prop
  | .receive remote front =>
    ∀ r ∈ s.outstanding, (isRequest (front.getD 14 0) → r.id ≠ clientSession front) ∨ !r.noReturn →
      r ∈ (s.remember remote front).outstanding ∧ (s.remember remote front).lookup r.id = some r.remote
  | .send data flush => 11 < data.length →
    (∀ r ∈ s.outstanding, r.id = clientSession data →
      (s.send cfg data flush).handed = s.handed ++ [(r.remote, data)] ∧
      (∀ t, t ≠ r.remote → (s.send cfg data flush).endpoint.targets t = s.endpoint.targets t) ∧
      r ∉ (s.send cfg data flush).outstanding) ∧
    ((∀ r ∈ s.outstanding, r.id ≠ clientSession data) → s.clients (clientSession data).1 ≠ none →
      (s.send cfg data flush).handed = s.handed ∧ (s.send cfg data flush).endpoint = s.endpoint) ∧
    ∀ r ∈ s.outstanding, r.id ≠ clientSession data →
      r ∈ (s.send cfg data flush).outstanding ∧ (s.send cfg data flush).lookup r.id = some r.remote

/-! ## The table -/

section

omit [DecidableEq Remote]

variable {s : ResponseTarget Remote}

/-- The targets after one is set. -/
lemma lookup_set (id id' : UInt16 × UInt16) (remote : Option Remote) :
    (s.set id remote).lookup id' = if id' = id then remote else s.lookup id' := by
  obtain ⟨c, t⟩ := id
  obtain ⟨c', t'⟩ := id'
  simp only [lookup, set, Prod.mk.injEq]
  by_cases hc : c' = c
  · subst hc
    rw [Function.update_self, Option.bind_some]
    by_cases ht : t' = t
    · subst ht
      simp
    · rw [Function.update_of_ne ht, if_neg fun h => ht h.2]
      cases s.clients c' <;> rfl
  · rw [Function.update_of_ne hc, if_neg fun h => hc h.1]

/-- `clients_` remembers exactly the outstanding requests. -/
def Remembers (s : ResponseTarget Remote) : Prop :=
  ∀ remote id, s.lookup id = some remote ↔ ∃ r ∈ s.outstanding, r.remote = remote ∧ r.id = id

/-- Nothing is remembered at the start. -/
lemma remembers_init : (init : ResponseTarget Remote).Remembers := by
  intro remote id
  simp [init, lookup]

/-- An outstanding request is found. -/
lemma Remembers.lookup_of_mem (hs : s.Remembers) {r : ReceivedRequest Remote}
    (hr : r ∈ s.outstanding) : s.lookup r.id = some r.remote :=
  (hs r.remote r.id).mpr ⟨r, hr, rfl, rfl⟩

/-- The table with another entry remembers the requests with another client or session and a new one. -/
lemma Remembers.set (hs : s.Remembers) {s' : ResponseTarget Remote} (id : UInt16 × UInt16)
    (remote : Option Remote) (new : List (ReceivedRequest Remote))
    (hclients : s'.clients = (s.set id remote).clients)
    (houtstanding : s'.outstanding = s.outstanding.filter (fun r => r.id ≠ id) ++ new)
    (hnew : ∀ r ∈ new, r.id = id ∧ remote = some r.remote)
    (hremote : ∀ x, remote = some x → ∃ r ∈ new, r.remote = x) : s'.Remembers := by
  intro x id'
  have hlookup : s'.lookup id' = (s.set id remote).lookup id' := by rw [lookup, hclients, lookup]
  rw [hlookup, lookup_set, houtstanding]
  by_cases hid : id' = id
  · subst hid
    rw [if_pos rfl]
    constructor
    · intro h
      obtain ⟨r, hr, hx⟩ := hremote x h
      exact ⟨r, List.mem_append_right _ hr, hx, (hnew r hr).1⟩
    · rintro ⟨r, hr, rfl, hid⟩
      rcases List.mem_append.mp hr with hr | hr
      · simp [hid] at hr
      · exact (hnew r hr).2
  · rw [if_neg hid, hs x id']
    constructor
    · rintro ⟨r, hr, hx, rfl⟩
      exact ⟨r, List.mem_append_left _ (by simp [hr, hid]), hx, rfl⟩
    · rintro ⟨r, hr, hx, rfl⟩
      rcases List.mem_append.mp hr with hr | hr
      · exact ⟨r, (List.mem_filter.mp hr).1, hx, rfl⟩
      · exact absurd (hnew r hr).1 hid

/-- A request that is remembered. -/
lemma Remembers.remember (hs : s.Remembers) (remote : Remote) (front : List UInt8) :
    (s.remember remote front).Remembers := by
  rw [ResponseTarget.remember]
  dsimp only
  split
  · exact hs.set (clientSession front) (some remote) _ rfl rfl (by simp) (by simp)
  · exact hs

end

variable {cfg} {s : ResponseTarget Remote}

/-- What `send` does for an outstanding request. -/
lemma send_of_lookup {data : List UInt8} (flush : Bool) (hlength : 11 < data.length) {remote : Remote}
    (hlookup : s.lookup (clientSession data) = some remote) :
    s.send cfg data flush = { (s.set (clientSession data) none).hand cfg remote data flush with
      outstanding := s.outstanding.filter fun r => r.id ≠ clientSession data } := by
  obtain ⟨sessions, hclient, hsession⟩ := Option.bind_eq_some_iff.mp hlookup
  rw [send, if_pos hlength]
  simp only [hclient, hsession]

/-- What `send` does for a client that has sent requests, if none of them is outstanding. -/
lemma send_of_known {data : List UInt8} (flush : Bool) (hlength : 11 < data.length)
    (hlookup : s.lookup (clientSession data) = none) (hknown : s.clients (clientSession data).1 ≠ none) :
    s.send cfg data flush =
      { s with outstanding := s.outstanding.filter fun r => r.id ≠ clientSession data } := by
  obtain ⟨sessions, hclient⟩ := Option.ne_none_iff_exists'.mp hknown
  have hsession : sessions (clientSession data).2 = none := by simpa [lookup, hclient] using hlookup
  rw [send, if_pos hlength]
  simp only [hclient, hsession]

/-- What `send` does for a client that has sent no request. -/
lemma send_of_unknown (cfg : ServerConfig Remote) {data : List UInt8} (flush : Bool)
    (hlength : 11 < data.length)
    (hunknown : s.clients (clientSession data).1 = none) :
    (s.send cfg data flush).clients = s.clients ∧ (s.send cfg data flush).outstanding =
      s.outstanding.filter fun r => r.id ≠ clientSession data := by
  rw [send, if_pos hlength]
  simp only [hunknown, and_true]
  split <;> rfl

/-- A message is received. -/
lemma Remembers.receive (hs : s.Remembers) {remote : Remote} {front : List UInt8}
    (hdistinct : s.Distinct (.receive remote front)) : s.Returns cfg (.receive remote front) := by
  intro r hr hkept
  have hmem : r ∈ (s.remember remote front).outstanding := by
    rw [ResponseTarget.remember]
    dsimp only
    split
    · rename_i hrequest
      have hne : r.id ≠ clientSession front := by
        rcases hkept with hne | hanswer
        · exact hne hrequest
        · intro heq
          simp [hdistinct hrequest r hr heq] at hanswer
      exact List.mem_append_left _ (by simp [hr, hne])
    · exact hr
  exact ⟨hmem, (hs.remember remote front).lookup_of_mem hmem⟩

/-- A message is sent. -/
lemma Remembers.send (hs : s.Remembers) (data : List UInt8) (flush : Bool) :
    (s.send cfg data flush).Remembers ∧ s.Returns cfg (.send data flush) := by
  by_cases hlength : 11 < data.length
  · have hremembers : (s.send cfg data flush).Remembers ∧ (s.send cfg data flush).outstanding =
        s.outstanding.filter fun r => r.id ≠ clientSession data := by
      cases hlookup : s.lookup (clientSession data) with
      | some remote =>
        rw [send_of_lookup flush hlength hlookup]
        exact ⟨hs.set (clientSession data) none [] rfl (by simp) (by simp) (by simp), rfl⟩
      | none =>
        have hkeep {s' : ResponseTarget Remote} (hclients : s'.clients = s.clients)
            (houtstanding : s'.outstanding =
              s.outstanding.filter fun r => r.id ≠ clientSession data) : s'.Remembers := by
          have hall : s'.outstanding = s.outstanding := by
            rw [houtstanding, List.filter_eq_self]
            intro r hr
            rw [decide_eq_true_eq]
            intro heq
            have hfound := hs.lookup_of_mem hr
            rw [heq, hlookup] at hfound
            cases hfound
          intro x id
          rw [lookup, hclients, hall]
          exact hs x id
        by_cases hknown : s.clients (clientSession data).1 = none
        · obtain ⟨hclients, houtstanding⟩ := send_of_unknown cfg flush hlength hknown
          exact ⟨hkeep hclients houtstanding, houtstanding⟩
        · rw [send_of_known flush hlength hlookup hknown]
          exact ⟨hkeep rfl rfl, rfl⟩
    refine ⟨hremembers.1, fun _ => ⟨fun r hr hid => ?_, fun hnone hknown => ?_, fun r hr hid => ?_⟩⟩
    · have hlookup := hs.lookup_of_mem hr
      rw [hid] at hlookup
      refine ⟨?_, fun t ht => ?_, ?_⟩
      · rw [send_of_lookup flush hlength hlookup]
        rfl
      · rw [send_of_lookup flush hlength hlookup]
        exact ServerEndpoint.targets_step_of_ne cfg.sending s.endpoint ht
      · rw [hremembers.2]
        simp [hid]
    · have hlookup : s.lookup (clientSession data) = none := by
        rw [Option.eq_none_iff_forall_ne_some]
        intro remote h
        obtain ⟨r, hr, -, hid⟩ := (hs remote _).mp h
        exact hnone r hr hid
      rw [send_of_known flush hlength hlookup hknown]
      exact ⟨rfl, rfl⟩
    · have hmem : r ∈ (s.send cfg data flush).outstanding := by
        rw [hremembers.2]
        simp [hr, hid]
      exact ⟨hmem, hremembers.1.lookup_of_mem hmem⟩
  · have hsame : s.send cfg data flush = s := if_neg hlength
    rw [hsame]
    exact ⟨hs, fun h => absurd h hlength⟩

/-- **Responses return to the requester**: in every run in which a request does not have the client and
the session of an outstanding one that is to be answered, each response is handed to `send_intern` for
the remote endpoint of its request and for no other one, and once.

**Proof sketch.** `clients_` remembers exactly the outstanding requests. A response erases the entry of
its request, so that it is the only one. -/
theorem returns_along (cfg : ServerConfig Remote) (actions : List (Action Remote))
    (hactions : Runs.Along (step cfg) Distinct init actions) :
    Runs.Along (step cfg) (Returns cfg) init actions := by
  refine @Runs.along_of_inv _ _ (step cfg) Remembers Distinct (Returns cfg) (fun {s a} hs ha => ?_) _ _
    remembers_init hactions
  cases a with
  | receive remote front => exact ⟨hs.remember remote front, hs.receive ha⟩
  | send data flush => exact hs.send data flush

/-! ## Two remote endpoints with the same client -/

/-- A message of client 0x101 with a session and a type. -/
def exampleMessage (session type : UInt8) : List UInt8 :=
  [0x12, 0x34, 0x00, 0x01, 0, 0, 0, 8, 0x01, 0x01, 0x00, session, 1, 1, type, 0]

/-- An endpoint with no limits and without default targets. -/
def exampleConfig : ServerConfig ℕ :=
  ⟨⟨1416, queueSizeUnlimited⟩, fun _ => none⟩

/-- The responses are sent in the other order than the requests were received. -/
theorem returns_along_example :
    Runs.Along (step exampleConfig) (Returns exampleConfig) init
      [.receive 1 (exampleMessage 1 0), .receive 2 (exampleMessage 2 0),
        .send (exampleMessage 2 0x80) true, .send (exampleMessage 1 0x80) true] :=
  returns_along exampleConfig _ ⟨by decide, by decide, trivial, trivial, trivial⟩

end ResponseTarget

end Vsomeip
