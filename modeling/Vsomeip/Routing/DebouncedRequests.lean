import Mathlib.Data.Finset.Image
import Mathlib.Data.List.Nodup
import Vsomeip.Lib.Runs
import Vsomeip.Routing.OfferService

set_option relaxedAutoImplicit false
set_option autoImplicit false

/-!
# The requests of a proxy

A proxy keeps the services that its application has requested, and sends them to the routing manager
whenever it has been registered. If requests are debounced, new ones are collected until a timer
expires.

The loop of `release_service` that looks for a collected request does not stop at it, so that the
request is not erased: it is sent when the timer expires.

## Main definitions

* `Vsomeip.ServiceDataSet` — `std::set<service_data_t>`.
* `Vsomeip.ProxyRequests` — the requests of the proxy.
* `Vsomeip.ProxyRequests.requestService`, `releaseService`, `requestDebounceTimeoutCbk`,
  `sendPendingCommands` — the functions.
* `Vsomeip.ProxyRequests.World.Consistent` — what is expected of a step.
* `Vsomeip.ProxyRequests.World.Unreleased` — the condition on a step.

## Main results

* `Vsomeip.ProxyRequests.requests_along_iff` — all steps of a run are as expected exactly if they
  meet the condition.
-/

namespace Vsomeip

/-- `service_data_t`. -/
structure ServiceData where
  key : InstanceKey
  version : Version
  useExclusiveProxy : Bool
deriving DecidableEq

/-- `std::set<service_data_t>`. The order of `service_data_t` only looks at the service instance, so the
set has one element for each. -/
structure ServiceDataSet where
  entries : List ServiceData
  distinct : (entries.map ServiceData.key).Nodup

namespace ServiceDataSet

/-- The empty set. -/
def empty : ServiceDataSet := ⟨[], List.nodup_nil⟩

/-- The service instances of a set. -/
def keys (s : ServiceDataSet) : List InstanceKey := s.entries.map ServiceData.key

/-- `std::set::insert`: nothing is changed if there is an element for the service instance. -/
def insert (s : ServiceDataSet) (d : ServiceData) : ServiceDataSet :=
  if h : d.key ∈ s.keys then s else ⟨d :: s.entries, List.nodup_cons.mpr ⟨h, s.distinct⟩⟩

/-- `std::set::insert` for a range. -/
def insertAll (s : ServiceDataSet) (ds : List ServiceData) : ServiceDataSet :=
  ds.foldl insert s

/-- The element for a service instance is erased. -/
def erase (s : ServiceDataSet) (k : InstanceKey) : ServiceDataSet :=
  ⟨s.entries.filter fun d => d.key ≠ k, s.distinct.sublist (List.filter_sublist.map _)⟩

end ServiceDataSet

/-- The commands to the routing manager that are about requests. -/
inductive RequestCommand
  | requestService (requests : List ServiceData)
  | releaseService (k : InstanceKey)

/-- `state_` as far as it is compared, `requests_`, `requests_to_debounce_` and
`request_debounce_timer_running_`. -/
structure ProxyRequests where
  registered : Bool
  requests : ServiceDataSet
  requestsToDebounce : ServiceDataSet
  timerRunning : Bool

namespace ProxyRequests

/-- `send_request_services`. -/
def sendRequestServices (requests : List ServiceData) : List RequestCommand :=
  if requests = [] then [] else [.requestService requests]

/-- `request_service`. The configuration says whether requests are debounced. -/
def requestService (debouncing : Bool) (s : ProxyRequests) (request : ServiceData) :
    ProxyRequests × List RequestCommand :=
  if debouncing = false then
    ({ s with requests := s.requests.insert request },
      if s.registered then sendRequestServices [request] else [])
  else
    ({ s with
        requestsToDebounce := s.requestsToDebounce.insert request
        timerRunning := true }, [])

/-- `release_service`. The loop that looks for a request to be debounced runs to the end, and erases
nothing. -/
def releaseService (s : ProxyRequests) (k : InstanceKey) : ProxyRequests × List RequestCommand :=
  let pending := s.requestsToDebounce.entries.any fun d => d.key = k
  ({ s with requests := s.requests.erase k },
    if ¬ pending ∧ s.registered then [.releaseService k] else [])

/-- `request_debounce_timeout_cbk`. The timer is started again as long as the proxy is not registered. -/
def requestDebounceTimeoutCbk (s : ProxyRequests) (error : Bool) :
    ProxyRequests × List RequestCommand :=
  if error = false ∧ s.requestsToDebounce.entries ≠ [] then
    if s.registered then
      ({ s with
          requests := s.requests.insertAll s.requestsToDebounce.entries
          requestsToDebounce := .empty
          timerRunning := false },
        sendRequestServices s.requestsToDebounce.entries)
    else ({ s with timerRunning := true }, [])
  else ({ s with timerRunning := false }, [])

/-- `on_routing_info` for the client itself: `send_pending_commands`, and the state. -/
def onRegistered (s : ProxyRequests) : ProxyRequests × List RequestCommand :=
  ({ s with registered := true }, sendRequestServices s.requests.entries)

/-- The proxy is not registered any more. -/
def onDeregistered (s : ProxyRequests) : ProxyRequests × List RequestCommand :=
  ({ s with registered := false }, [])

/-- What happens to a proxy. -/
inductive Action
  | requestService (request : ServiceData)
  | releaseService (k : InstanceKey)
  | requestDebounceTimeoutCbk (error : Bool)
  | onRegistered
  | onDeregistered

/-- What an action does, and the commands that are sent. -/
def act (debouncing : Bool) (s : ProxyRequests) : Action → ProxyRequests × List RequestCommand
  | .requestService request => s.requestService debouncing request
  | .releaseService k => s.releaseService k
  | .requestDebounceTimeoutCbk error => s.requestDebounceTimeoutCbk error
  | .onRegistered => s.onRegistered
  | .onDeregistered => s.onDeregistered

/-- Nothing is requested. -/
def init : ProxyRequests := ⟨false, .empty, .empty, false⟩

/-! ## What is expected -/

/-- The effect of a command on the service instances that the routing manager knows to be requested. -/
def apply (known : Finset InstanceKey) : RequestCommand → Finset InstanceKey
  | .requestService requests => known ∪ (requests.map ServiceData.key).toFinset
  | .releaseService k => known.erase k

/-- A proxy, the service instances that the routing manager knows to be requested by it, and the
requests that the application has made and not released since. -/
structure World where
  proxy : ProxyRequests
  known : Finset InstanceKey
  wanted : Finset ServiceData

namespace World

/-- The requests that an application has made and not released. -/
def want (wanted : Finset ServiceData) : Action → Finset ServiceData
  | .requestService request => insert request wanted
  | .releaseService k => wanted.filter fun d => d.key ≠ k
  | _ => wanted

/-- A step. The routing manager applies the commands in their order, and forgets the requests of a
proxy that is not registered any more. -/
def step (debouncing : Bool) (w : World) (a : Action) : World where
  proxy := (w.proxy.act debouncing a).1
  known :=
    match a with
    | .onDeregistered => ∅
    | _ => (w.proxy.act debouncing a).2.foldl apply w.known
  wanted := want w.wanted a

/-- What is expected of a step: if no request is left to be debounced, the proxy has what is requested
and not released since, and so has the routing manager if the proxy is registered; and no request is
sent that was released. -/
structure Consistent (debouncing : Bool) (w : World) (a : Action) : Prop where
  requests : (w.step debouncing a).proxy.requestsToDebounce.entries = [] →
    ∀ k, k ∈ (w.step debouncing a).proxy.requests.keys ↔
      ∃ d ∈ (w.step debouncing a).wanted, d.key = k
  known : (w.step debouncing a).proxy.requestsToDebounce.entries = [] →
    (w.step debouncing a).proxy.registered → ∀ k, k ∈ (w.step debouncing a).known ↔
      ∃ d ∈ (w.step debouncing a).wanted, d.key = k
  sent : ∀ {requests}, .requestService requests ∈ (w.proxy.act debouncing a).2 →
    ∀ d ∈ requests, d ∈ (w.step debouncing a).wanted

/-- The condition: when the timer expires and the proxy is registered, no request that is to be
debounced has been released, or it has been made again since. -/
def Unreleased (w : World) : Action → Prop
  | .requestDebounceTimeoutCbk error => error = false → w.proxy.registered →
    ∀ d ∈ w.proxy.requestsToDebounce.entries, d ∈ w.wanted
  | _ => True

end World

end ProxyRequests

/-! ## Sets of requests -/

namespace ServiceDataSet

variable {s : ServiceDataSet} {d : ServiceData} {ds : List ServiceData} {k : InstanceKey}

/-- The keys of the requests. -/
lemma mem_keys_iff : k ∈ s.keys ↔ ∃ d ∈ s.entries, d.key = k := List.mem_map

/-- No key without requests. -/
@[simp] lemma not_mem_keys_empty : k ∉ empty.keys := List.not_mem_nil

/-- The requests after one is inserted. -/
lemma mem_of_mem_insert {e : ServiceData} (h : e ∈ (s.insert d).entries) :
    e = d ∨ e ∈ s.entries := by
  unfold insert at h
  split at h
  · exact Or.inr h
  · exact List.mem_cons.mp h

/-- The keys after a request is inserted. -/
lemma mem_keys_insert_iff : k ∈ (s.insert d).keys ↔ k = d.key ∨ k ∈ s.keys := by
  unfold insert
  split
  · rename_i hmem
    exact ⟨Or.inr, fun h => h.elim (fun heq => heq ▸ hmem) id⟩
  · exact List.mem_cons

/-- The requests after some are inserted. -/
lemma mem_of_mem_insertAll {e : ServiceData} (h : e ∈ (s.insertAll ds).entries) :
    e ∈ ds ∨ e ∈ s.entries := by
  induction ds generalizing s with
  | nil => exact Or.inr h
  | cons d ds ih =>
    rcases ih (s := s.insert d) h with h | h
    · exact Or.inl (List.mem_cons_of_mem d h)
    · rcases mem_of_mem_insert h with rfl | h
      · exact Or.inl List.mem_cons_self
      · exact Or.inr h

/-- The keys after some requests are inserted. -/
lemma mem_keys_insertAll_iff :
    k ∈ (s.insertAll ds).keys ↔ k ∈ ds.map ServiceData.key ∨ k ∈ s.keys := by
  induction ds generalizing s with
  | nil => exact ⟨Or.inr, fun h => h.resolve_left List.not_mem_nil⟩
  | cons d ds ih =>
    rw [List.map_cons, List.mem_cons]
    refine (ih (s := s.insert d)).trans ?_
    rw [mem_keys_insert_iff]
    tauto

/-- The requests after a key is erased. -/
lemma mem_erase_iff : d ∈ (s.erase k).entries ↔ d ∈ s.entries ∧ d.key ≠ k := by
  rw [erase, List.mem_filter, decide_eq_true_iff]

/-- The keys after one is erased. -/
lemma mem_keys_erase_iff {k' : InstanceKey} : k' ∈ (s.erase k).keys ↔ k' ∈ s.keys ∧ k' ≠ k := by
  rw [mem_keys_iff, mem_keys_iff]
  constructor
  · rintro ⟨d, hd, rfl⟩
    obtain ⟨hd, hne⟩ := mem_erase_iff.mp hd
    exact ⟨⟨d, hd, rfl⟩, hne⟩
  · rintro ⟨⟨d, hd, rfl⟩, hne⟩
    exact ⟨d, mem_erase_iff.mpr ⟨hd, hne⟩, rfl⟩

end ServiceDataSet

/-! ## The steps -/

namespace ProxyRequests

namespace World

variable {debouncing : Bool} {w : World} {a : Action}

/-- What the steps of a run keep under the condition. -/
structure Inv (w : World) : Prop where
  /-- The requests of the proxy are wanted. -/
  wanted : ∀ d ∈ w.proxy.requests.entries, d ∈ w.wanted
  /-- What is wanted is among the requests, or still to be debounced. -/
  kept : ∀ d ∈ w.wanted, d.key ∈ w.proxy.requests.keys ∨ d.key ∈ w.proxy.requestsToDebounce.keys
  /-- The routing manager knows the requests of a registered proxy, and no more than is still to be
  debounced. -/
  known : w.proxy.registered →
    (∀ k ∈ w.proxy.requests.keys, k ∈ w.known) ∧
      ∀ k ∈ w.known, k ∈ w.proxy.requests.keys ∨ k ∈ w.proxy.requestsToDebounce.keys
  unknown : w.proxy.registered = false → w.known = ∅

/-- What the stub knows after the requests are sent. -/
lemma mem_foldl_sendRequestServices {requests : List ServiceData} {known : Finset InstanceKey}
    {k : InstanceKey} : k ∈ (sendRequestServices requests).foldl apply known ↔
      k ∈ known ∨ k ∈ requests.map ServiceData.key := by
  unfold sendRequestServices
  split_ifs with hnil
  · rw [hnil]
    exact (or_iff_left List.not_mem_nil).symm
  · rw [List.foldl_cons, List.foldl_nil, apply, Finset.mem_union, List.mem_toFinset]

/-- A request keeps the invariant. -/
lemma inv_requestService (hinv : w.Inv) (request : ServiceData) :
    (w.step debouncing (.requestService request)).Inv := by
  by_cases hdebouncing : debouncing = false
  · have hact : w.proxy.act debouncing (.requestService request) = _ := if_pos hdebouncing
    refine ⟨?_, ?_, ?_, ?_⟩ <;> simp only [step, hact, want]
    · intro d hd
      rcases ServiceDataSet.mem_of_mem_insert hd with rfl | hd
      · exact Finset.mem_insert_self _ _
      · exact Finset.mem_insert_of_mem (hinv.wanted d hd)
    · intro d hd
      rw [ServiceDataSet.mem_keys_insert_iff]
      rcases Finset.mem_insert.mp hd with rfl | hd
      · exact Or.inl (Or.inl rfl)
      · exact (hinv.kept d hd).imp_left Or.inr
    · intro hregistered
      obtain ⟨hsub, hsup⟩ := hinv.known hregistered
      rw [if_pos hregistered]
      refine ⟨fun k hk => ?_, fun k hk => ?_⟩
      · rw [mem_foldl_sendRequestServices]
        rcases ServiceDataSet.mem_keys_insert_iff.mp hk with rfl | hk
        · exact Or.inr (List.mem_singleton.mpr rfl)
        · exact Or.inl (hsub k hk)
      · rw [ServiceDataSet.mem_keys_insert_iff]
        rcases mem_foldl_sendRequestServices.mp hk with hk | hk
        · exact (hsup k hk).imp_left Or.inr
        · exact Or.inl (Or.inl (List.mem_singleton.mp hk))
    · intro hregistered
      rw [hregistered, if_neg Bool.false_ne_true]
      exact hinv.unknown hregistered
  · have hact : w.proxy.act debouncing (.requestService request) = _ := if_neg hdebouncing
    refine ⟨?_, ?_, ?_, ?_⟩ <;> simp only [step, hact, want, List.foldl_nil]
    · exact fun d hd => Finset.mem_insert_of_mem (hinv.wanted d hd)
    · intro d hd
      rw [ServiceDataSet.mem_keys_insert_iff]
      rcases Finset.mem_insert.mp hd with rfl | hd
      · exact Or.inr (Or.inl rfl)
      · exact (hinv.kept d hd).imp_right Or.inr
    · intro hregistered
      obtain ⟨hsub, hsup⟩ := hinv.known hregistered
      refine ⟨hsub, fun k hk => ?_⟩
      rw [ServiceDataSet.mem_keys_insert_iff]
      exact (hsup k hk).imp_right Or.inr
    · exact hinv.unknown

/-- What is released is taken out of the requests. What is still to be debounced stays, so that nothing
is lost. -/
lemma inv_releaseService (hinv : w.Inv) (k : InstanceKey) :
    (w.step debouncing (.releaseService k)).Inv := by
  refine ⟨?_, ?_, ?_, ?_⟩ <;> simp only [step, act, releaseService, want]
  · intro d hd
    obtain ⟨hd, hne⟩ := ServiceDataSet.mem_erase_iff.mp hd
    exact Finset.mem_filter.mpr ⟨hinv.wanted d hd, hne⟩
  · intro d hd
    obtain ⟨hd, hne⟩ := Finset.mem_filter.mp hd
    rw [ServiceDataSet.mem_keys_erase_iff]
    exact (hinv.kept d hd).imp_left fun h => ⟨h, hne⟩
  · intro hregistered
    obtain ⟨hsub, hsup⟩ := hinv.known hregistered
    have hpending : (w.proxy.requestsToDebounce.entries.any fun d => d.key = k) = true ↔
        k ∈ w.proxy.requestsToDebounce.keys := by
      rw [List.any_eq_true, ServiceDataSet.mem_keys_iff]
      simp only [decide_eq_true_iff]
    by_cases hk : k ∈ w.proxy.requestsToDebounce.keys
    · rw [if_neg fun h => h.1 (hpending.mpr hk)]
      simp only [List.foldl_nil, ServiceDataSet.mem_keys_erase_iff]
      refine ⟨fun k' h => hsub k' h.1, fun k' h => ?_⟩
      by_cases heq : k' = k
      · exact Or.inr (heq ▸ hk)
      · exact (hsup k' h).imp_left fun h' => ⟨h', heq⟩
    · rw [if_pos ⟨fun h => hk (hpending.mp h), hregistered⟩]
      simp only [List.foldl_cons, List.foldl_nil, apply, Finset.mem_erase,
        ServiceDataSet.mem_keys_erase_iff]
      exact ⟨fun k' h => ⟨h.2, hsub k' h.1⟩, fun k' h => (hsup k' h.2).imp_left fun h' => ⟨h', h.1⟩⟩
  · intro hregistered
    rw [hregistered, if_neg fun h => Bool.false_ne_true h.2]
    exact hinv.unknown hregistered

/-- An expiry of the timer keeps the invariant, if nothing was released meanwhile. -/
lemma inv_requestDebounceTimeoutCbk (hinv : w.Inv) {error : Bool}
    (hgood : w.Unreleased (.requestDebounceTimeoutCbk error)) :
    (w.step debouncing (.requestDebounceTimeoutCbk error)).Inv := by
  by_cases hexpired : error = false ∧ w.proxy.requestsToDebounce.entries ≠ []
  · by_cases hregistered : w.proxy.registered
    · have hact : w.proxy.act debouncing (.requestDebounceTimeoutCbk error) = _ :=
        (if_pos hexpired).trans (if_pos hregistered)
      have hwanted := hgood hexpired.1 hregistered
      obtain ⟨hsub, hsup⟩ := hinv.known hregistered
      refine ⟨?_, ?_, ?_, ?_⟩ <;> simp only [step, hact, want]
      · intro d hd
        rcases ServiceDataSet.mem_of_mem_insertAll hd with hd | hd
        · exact hwanted d hd
        · exact hinv.wanted d hd
      · intro d hd
        rw [ServiceDataSet.mem_keys_insertAll_iff]
        exact Or.inl (hinv.kept d hd).symm
      · intro _
        simp only [mem_foldl_sendRequestServices, ServiceDataSet.mem_keys_insertAll_iff]
        exact ⟨fun k hk => hk.symm.imp_left (hsub k),
          fun k hk => Or.inl (hk.elim (fun h => (hsup k h).symm) Or.inl)⟩
      · exact fun h => absurd hregistered (Bool.eq_false_iff.mp h)
    · have hact : w.proxy.act debouncing (.requestDebounceTimeoutCbk error) = _ :=
        (if_pos hexpired).trans (if_neg hregistered)
      refine ⟨?_, ?_, ?_, ?_⟩ <;> simp only [step, hact, want, List.foldl_nil]
      exacts [hinv.wanted, hinv.kept, hinv.known, hinv.unknown]
  · have hact : w.proxy.act debouncing (.requestDebounceTimeoutCbk error) = _ := if_neg hexpired
    refine ⟨?_, ?_, ?_, ?_⟩ <;> simp only [step, hact, want, List.foldl_nil]
    exacts [hinv.wanted, hinv.kept, hinv.known, hinv.unknown]

/-- A registration keeps the invariant. -/
lemma inv_onRegistered (hinv : w.Inv) : (w.step debouncing .onRegistered).Inv := by
  refine ⟨hinv.wanted, hinv.kept, fun _ => ?_, fun h => absurd rfl (Bool.eq_false_iff.mp h)⟩
  simp only [step, act, onRegistered, mem_foldl_sendRequestServices]
  refine ⟨fun k hk => Or.inr hk, fun k hk => ?_⟩
  rcases hk with hk | hk
  · cases hregistered : w.proxy.registered with
    | true => exact (hinv.known hregistered).2 k hk
    | false =>
      rw [hinv.unknown hregistered] at hk
      exact absurd hk (Finset.notMem_empty k)
  · exact Or.inl hk

/-- A step keeps the invariant, if it forwards nothing that was released. -/
lemma inv_step (hinv : w.Inv) (hgood : w.Unreleased a) : (w.step debouncing a).Inv := by
  cases a with
  | requestService request => exact inv_requestService hinv request
  | releaseService k => exact inv_releaseService hinv k
  | requestDebounceTimeoutCbk error => exact inv_requestDebounceTimeoutCbk hinv hgood
  | onRegistered => exact inv_onRegistered hinv
  | onDeregistered =>
    exact ⟨hinv.wanted, hinv.kept, fun h => absurd h Bool.false_ne_true, fun _ => rfl⟩

/-- Under the condition a step sends no request that was released. -/
lemma sent_wanted (hinv : w.Inv) (hgood : w.Unreleased a) {requests : List ServiceData}
    (hsent : .requestService requests ∈ (w.proxy.act debouncing a).2) :
    ∀ d ∈ requests, d ∈ (w.step debouncing a).wanted := by
  have hmem : ∀ {l}, RequestCommand.requestService requests ∈ sendRequestServices l →
      requests = l := fun {l} h => by
    unfold sendRequestServices at h
    split_ifs at h
    · exact absurd h List.not_mem_nil
    · exact RequestCommand.requestService.inj (List.mem_singleton.mp h)
  cases a with
  | requestService request =>
    simp only [act, requestService] at hsent
    split_ifs at hsent
    · obtain rfl := hmem (l := [request]) hsent
      exact fun d hd => Finset.mem_insert.mpr (Or.inl (List.mem_singleton.mp hd))
    · exact absurd hsent List.not_mem_nil
    · exact absurd hsent List.not_mem_nil
  | releaseService k =>
    simp only [act, releaseService] at hsent
    split_ifs at hsent
    · exact absurd (List.mem_singleton.mp hsent) nofun
    · exact absurd hsent List.not_mem_nil
  | requestDebounceTimeoutCbk error =>
    simp only [act, requestDebounceTimeoutCbk] at hsent
    split_ifs at hsent with hexpired hregistered
    · obtain rfl := hmem hsent
      exact hgood hexpired.1 hregistered
    · exact absurd hsent List.not_mem_nil
    · exact absurd hsent List.not_mem_nil
  | onRegistered =>
    obtain rfl := hmem hsent
    exact hinv.wanted
  | onDeregistered => exact absurd hsent List.not_mem_nil

/-- A step that forwards nothing that was released is consistent. -/
lemma consistent_of_unreleased (hinv : w.Inv) (hgood : w.Unreleased a) :
    Consistent debouncing w a := by
  have hnext : (w.step debouncing a).Inv := inv_step hinv hgood
  have hkeys : (w.step debouncing a).proxy.requestsToDebounce.entries = [] →
      ∀ k, k ∈ (w.step debouncing a).proxy.requests.keys ↔
        ∃ d ∈ (w.step debouncing a).wanted, d.key = k := by
    intro hnil k
    constructor
    · intro hk
      obtain ⟨d, hd, rfl⟩ := ServiceDataSet.mem_keys_iff.mp hk
      exact ⟨d, hnext.wanted d hd, rfl⟩
    · rintro ⟨d, hd, rfl⟩
      refine (hnext.kept d hd).resolve_right fun h => ?_
      rw [ServiceDataSet.keys, hnil] at h
      exact absurd h List.not_mem_nil
  refine ⟨hkeys, fun hnil hregistered k => ?_, sent_wanted hinv hgood⟩
  obtain ⟨hsub, hsup⟩ := hnext.known hregistered
  rw [← hkeys hnil k]
  refine ⟨fun hk => (hsup k hk).resolve_right fun h => ?_, hsub k⟩
  rw [ServiceDataSet.keys, hnil] at h
  exact absurd h List.not_mem_nil

/-- A request that was released is sent when the timer expires. -/
lemma not_consistent_of_released (hbad : ¬ w.Unreleased a) : ¬ Consistent debouncing w a := by
  intro h
  refine hbad ?_
  cases a with
  | requestDebounceTimeoutCbk error =>
    intro herror hregistered d hd
    have hact : w.proxy.act debouncing (.requestDebounceTimeoutCbk error) = _ :=
      (if_pos ⟨herror, List.ne_nil_of_mem hd⟩).trans (if_pos hregistered)
    refine h.sent ?_ d hd
    rw [hact, sendRequestServices, if_neg (List.ne_nil_of_mem hd)]
    exact List.mem_singleton.mpr rfl
  | _ => trivial

end World

/-- **Debounced requests.** In all steps of a run the requests of the proxy and of the routing manager
are those that were made and not released since, once none is left to be debounced, and no request is
sent that was released, exactly if whenever the timer expires while the proxy is registered no request
that is to be debounced has been released without being made again.

**Proof sketch.** What is wanted is among the requests or still to be debounced. A release leaves a
request that is to be debounced, and sends no command then. -/
theorem requests_along_iff (debouncing : Bool) (as : List Action) :
    Runs.Along (World.step debouncing) (World.Consistent debouncing) ⟨init, ∅, ∅⟩ as ↔
      Runs.Along (World.step debouncing) World.Unreleased ⟨init, ∅, ∅⟩ as :=
  Runs.along_iff (I := World.Inv) (E := fun _ _ => True)
    (fun hinv _ hgood => ⟨World.inv_step hinv hgood, World.consistent_of_unreleased hinv hgood⟩)
    (fun _ _ hbad => World.not_consistent_of_released hbad)
    ⟨fun _ h => absurd h List.not_mem_nil, fun _ h => absurd h (Finset.notMem_empty _),
      fun h => absurd h Bool.false_ne_true, fun _ => rfl⟩
    (Runs.along_of_forall fun _ _ => trivial)

/-- A request of a service instance. -/
def exampleRequest : ServiceData := ⟨(0x1234, 0x5678), ⟨1, 0⟩, false⟩

/-- A registered proxy with debouncing requests a service and releases it before the timer expires. -/
theorem not_consistent_released : ¬ ∀ (debouncing : Bool) (as : List Action),
    Runs.Along (World.step debouncing) (World.Consistent debouncing) ⟨init, ∅, ∅⟩ as := by
  intro h
  obtain ⟨-, -, -, hlast, -⟩ := h true
    [.onRegistered, .requestService exampleRequest, .releaseService exampleRequest.key,
      .requestDebounceTimeoutCbk false]
  exact absurd (hlast.sent (List.mem_singleton.mpr rfl) exampleRequest (List.mem_singleton.mpr rfl))
    (by decide)

end ProxyRequests

end Vsomeip
