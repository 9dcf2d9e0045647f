import Mathlib.Data.List.Sort
import Std.Data.TreeMap.Lemmas
import Vsomeip.Message.MessageImpl
import Vsomeip.Runtime.Available

set_option relaxedAutoImplicit false
set_option autoImplicit false

/-!
# The handlers of a message

`application_impl::on_message` looks for handlers under eight keys, with the wildcards in place of the
service, the instance and the method, and collects copies of them in a set, so that each is called once.
The set compares two handlers by what `target` returns for the type of a pointer to a function. This is
the address at which the copy holds its function pointer, and null for all other callables. So two
copies of one function pointer are told apart, and two other callables are not.

## Main definitions

* `Vsomeip.StoredHandler.insertInto` — the set of handlers.
* `Vsomeip.Members.foundHandlers` — what the eight searches find.
* `Vsomeip.Application.onMessage` — the calls that are queued.
* `Vsomeip.Application.CallsEachOnce` — what they should be.

## Main results

* `Vsomeip.StoredHandler.collect_perm` — what is in the set in the end.
* `Vsomeip.Application.callsEachOnce_iff` — when each handler is called once.
-/

namespace Vsomeip

open Std (TreeMap)

/-- `ANY_METHOD`. -/
def anyMethod : UInt16 := 0xFFFF

/-- What a `message_handler_t` holds: a pointer to a function, or another callable. -/
inductive MessageHandler
  | functionPointer (function : ℕ)
  | callable (object : ℕ)
deriving DecidableEq

/-- The handler holds a pointer to a function. -/
def MessageHandler.isFunctionPointer : MessageHandler → Bool
  | functionPointer _ => true
  | callable _ => false

/-! ## The set of handlers -/

/-- `message_handler`: a copy of a handler, and the address at which the copy holds it. -/
structure StoredHandler where
  address : ℕ
  handler : MessageHandler

/-- The addresses of copies that exist at the same time are different. -/
structure Addresses where
  address : ℕ → ℕ
  injective : Function.Injective address

namespace StoredHandler

/-- `handler_.target` for the type of a pointer to a function. -/
def target (h : StoredHandler) : Option ℕ :=
  if h.handler.isFunctionPointer then some h.address else none

/-- `operator<`. The null pointer is the least one. -/
def lt (h other : StoredHandler) : Bool :=
  match h.target, other.target with
  | none, none => false
  | none, some _ => true
  | some _, none => false
  | some a, some b => a < b

/-- `std::set::insert`. -/
def insertInto (handlers : List StoredHandler) (h : StoredHandler) : List StoredHandler :=
  if handlers.any fun other => !h.lt other && !other.lt h then handlers
  else handlers.orderedInsert (fun h other => h.lt other = true) h

/-- The handlers that are found are inserted one after another. -/
def collect (addresses : Addresses) (found : List MessageHandler) : List StoredHandler :=
  found.zipIdx.foldl (fun handlers (handler, i) => insertInto handlers ⟨addresses.address i, handler⟩) []

end StoredHandler

/-! ## The table -/

/-- `members_`. -/
abbrev Members : Type := TreeMap UInt16 (TreeMap UInt16 (TreeMap UInt16 MessageHandler))

namespace Members

variable (members : Members)

/-- The handler that is registered under a key. -/
def find (service inst method : UInt16) : Option MessageHandler := do
  let instances ← members[service]?
  let methods ← instances[inst]?
  methods[method]?

/-- `register_message_handler`. -/
def registerMessageHandler (service inst method : UInt16) (handler : MessageHandler) : Members :=
  let instances := members.getD service ∅
  let methods := instances.getD inst ∅
  members.insert service (instances.insert inst (methods.insert method handler))

/-- `unregister_message_handler`. -/
def unregisterMessageHandler (service inst method : UInt16) : Members :=
  match members[service]? with
  | none => members
  | some instances =>
    match instances[inst]? with
    | none => members
    | some methods => members.insert service (instances.insert inst (methods.erase method))

/-- The searches of `on_message`, in their order. -/
def foundHandlers (service inst method : UInt16) : List MessageHandler :=
  [service, anyService].flatMap fun service =>
    (members[service]?).elim [] fun instances =>
      [inst, anyInstance].flatMap fun inst =>
        (instances[inst]?).elim [] fun methods =>
          [method, anyMethod].filterMap fun method => methods[method]?

variable {members}

/-- The handlers after one is registered. -/
lemma find_registerMessageHandler (service inst method : UInt16) (handler : MessageHandler)
    (service' inst' method' : UInt16) :
    (members.registerMessageHandler service inst method handler).find service' inst' method' =
      if service' = service ∧ inst' = inst ∧ method' = method then some handler
      else members.find service' inst' method' := by
  simp only [find, registerMessageHandler, TreeMap.getElem?_insert, TreeMap.getD_eq_getD_getElem?,
    Std.compare_eq_iff_eq, Option.bind_eq_bind]
  by_cases hservice : service = service'
  · subst hservice
    by_cases hinst : inst = inst'
    · subst hinst
      by_cases hmethod : method = method'
      · simp [hmethod]
      · cases members[service]? with
        | none => simp [hmethod, Ne.symm hmethod]
        | some instances =>
          cases hfind : instances[inst]? <;>
            simp [hmethod, Ne.symm hmethod, TreeMap.getElem?_insert, hfind]
    · cases members[service]? <;>
        simp [hinst, Ne.symm hinst, TreeMap.getElem?_insert]
  · rw [if_neg hservice, if_neg fun h => hservice h.1.symm]

/-- The handlers after one is unregistered. -/
lemma find_unregisterMessageHandler (service inst method service' inst' method' : UInt16) :
    (members.unregisterMessageHandler service inst method).find service' inst' method' =
      if service' = service ∧ inst' = inst ∧ method' = method then none
      else members.find service' inst' method' := by
  rw [unregisterMessageHandler]
  cases hinstances : members[service]? with
  | none =>
    rw [ite_eq_right_iff.mpr]
    rintro ⟨rfl, -, -⟩
    simp [find, hinstances]
  | some instances =>
    dsimp only
    cases hmethods : instances[inst]? with
    | none =>
      rw [ite_eq_right_iff.mpr]
      rintro ⟨rfl, rfl, -⟩
      simp [find, hinstances, hmethods]
    | some methods =>
      simp only [find, TreeMap.getElem?_insert, Std.compare_eq_iff_eq, Option.bind_eq_bind]
      by_cases hservice : service = service'
      · subst hservice
        by_cases hinst : inst = inst'
        · subst hinst
          by_cases hmethod : method = method'
          · simp [hmethod]
          · simp [hinstances, hmethods, hmethod, Ne.symm hmethod, TreeMap.getElem?_erase]
        · simp [hinstances, hinst, Ne.symm hinst, TreeMap.getElem?_insert]
      · rw [if_neg hservice, if_neg fun h => hservice h.1.symm]

end Members

/-! ## Messages -/

/-- A message and the instance that it is from. -/
structure ReceivedMessage where
  message : MessageImpl
  inst : UInt16

namespace ReceivedMessage

variable (m : ReceivedMessage)

/-- The service of the message. -/
def service : UInt16 := m.message.header.service

/-- The method of the message. -/
def method : UInt16 := m.message.header.method

/-- The session of the message. -/
def session : UInt16 := m.message.header.session

/-- The type is `MT_NOTIFICATION`. -/
def isNotification : Bool := m.message.header.type = 0x02

end ReceivedMessage

/-- A `sync_handler` of the type `MESSAGE`. -/
structure MessageCall where
  handler : MessageHandler
  message : ReceivedMessage
  serviceId : UInt16
  instanceId : UInt16
  methodId : UInt16
  sessionId : UInt16

/-- The part of an application that is about the handlers of messages, with the calls of `handlers_`
that are for messages. -/
structure Application where
  members : Members
  handlers : List MessageCall

namespace Application

variable (a : Application) (m : ReceivedMessage)

/-- `on_message`, with the result of `check_for_active_subscription`. -/
def onMessage (isActive : UInt16 → UInt16 → UInt16 → Bool) (addresses : Addresses) : Application :=
  if m.isNotification && !isActive m.service m.inst m.method then a
  else
    let handlers := StoredHandler.collect addresses (a.members.foundHandlers m.service m.inst m.method)
    { a with handlers := a.handlers ++ handlers.map fun stored =>
        { handler := stored.handler, message := m, serviceId := m.service, instanceId := m.inst,
          methodId := m.method, sessionId := m.session } }

/-- A handler is registered for a pattern that the message matches. -/
def Matches (handler : MessageHandler) : Prop :=
  ∃ service inst method, (service = m.service ∨ service = anyService) ∧
    (inst = m.inst ∨ inst = anyInstance) ∧ (method = m.method ∨ method = anyMethod) ∧
    a.members.find service inst method = some handler

/-- Behind what was queued there is one call with the message for each handler that matches, and none
for the others. -/
def CallsEachOnce (a' : Application) : Prop :=
  ∃ calls, a'.handlers = a.handlers ++ calls ∧ (∀ call ∈ calls, call.message = m) ∧
    ∀ handler, (a.Matches m handler → (calls.map MessageCall.handler).count handler = 1) ∧
      (¬ a.Matches m handler → (calls.map MessageCall.handler).count handler = 0)

/-- The searches find no function pointer twice, and not two different other callables. -/
def ToldApart (found : List MessageHandler) : Prop :=
  (∀ function, found.count (.functionPointer function) ≤ 1) ∧
    ∀ object object', .callable object ∈ found → .callable object' ∈ found → object = object'

end Application

/-! ## What is in the set -/

namespace StoredHandler

variable {handlers : List StoredHandler} {a : ℕ}

/-- Two handlers are equivalent if their targets are equal. -/
lemma not_lt_and_not_lt_iff (h other : StoredHandler) :
    (!h.lt other && !other.lt h) = true ↔ h.target = other.target := by
  cases hh : h.target <;> cases ho : other.target <;> simp [lt, hh, ho]
  omega

/-- A copy of a function pointer at a new address is always inserted. -/
lemma insertInto_functionPointer_perm {handler : MessageHandler}
    (hpointer : handler.isFunctionPointer = true) (hnew : ∀ h ∈ handlers, h.address ≠ a) :
    (insertInto handlers ⟨a, handler⟩).Perm (⟨a, handler⟩ :: handlers) := by
  rw [insertInto, if_neg]
  · exact List.perm_orderedInsert _ _ _
  · simp only [List.any_eq_true, not_lt_and_not_lt_iff]
    rintro ⟨h, hmem, htarget⟩
    have haddress : h.address = a := by
      cases hh : h.handler.isFunctionPointer <;> simp_all [target]
    exact hnew h hmem haddress

/-- Another callable is inserted if there is none in the set. -/
lemma insertInto_callable_perm (handlers : List StoredHandler) (a : ℕ) {handler : MessageHandler}
    (hcallable : handler.isFunctionPointer = false) :
    (insertInto handlers ⟨a, handler⟩).Perm
      (if ∃ h ∈ handlers, h.handler.isFunctionPointer = false then handlers
        else ⟨a, handler⟩ :: handlers) := by
  have hequivalent : (handlers.any fun other =>
      !lt ⟨a, handler⟩ other && !other.lt ⟨a, handler⟩) = true ↔
      ∃ h ∈ handlers, h.handler.isFunctionPointer = false := by
    simp only [List.any_eq_true, not_lt_and_not_lt_iff]
    refine exists_congr fun h => and_congr_right fun _ => ?_
    cases hh : h.handler.isFunctionPointer <;> simp [target, hcallable, hh]
  rw [insertInto]
  simp only [hequivalent]
  split
  · exact List.Perm.refl _
  · exact List.perm_orderedInsert _ _ _

/-- The handlers of the set: all function pointers, and the first of the other callables. -/
def kept (found : List MessageHandler) : List MessageHandler :=
  found.filter (·.isFunctionPointer) ++ (found.find? fun h => !h.isFunctionPointer).toList

/-- A function pointer that is found is kept. -/
lemma kept_append_functionPointer {handler : MessageHandler} (found : List MessageHandler)
    (hpointer : handler.isFunctionPointer = true) :
    (kept (found ++ [handler])).Perm (handler :: kept found) := by
  rw [kept, kept, List.find?_append, List.filter_append]
  simp [hpointer]

/-- Another callable that is found is kept if it is the first one. -/
lemma kept_append_callable {handler : MessageHandler} (found : List MessageHandler)
    (hcallable : handler.isFunctionPointer = false) :
    (kept (found ++ [handler])).Perm
      (if ∃ h ∈ kept found, h.isFunctionPointer = false then kept found else handler :: kept found) := by
  have hexists : (∃ h ∈ kept found, h.isFunctionPointer = false) ↔
      (found.find? fun h => !h.isFunctionPointer).isSome := by
    constructor
    · rintro ⟨h, hmem, hcallable⟩
      rcases List.mem_append.mp hmem with hmem | hmem
      · exact absurd (List.mem_filter.mp hmem).2 (by simp [hcallable])
      · exact Option.isSome_iff_exists.mpr ⟨h, Option.mem_toList.mp hmem⟩
    · intro hsome
      obtain ⟨h, hfind⟩ := Option.isSome_iff_exists.mp hsome
      exact ⟨h, by simp [kept, hfind], by simpa using List.find?_some hfind⟩
  rw [kept, List.find?_append, List.filter_append]
  simp only [hexists]
  cases hfind : found.find? fun h => !h.isFunctionPointer with
  | none => simp [kept, hcallable, hfind]
  | some h => simp [kept, hcallable, hfind]

/-- In the set there are all copies of function pointers, and one other callable. -/
lemma collect_perm (addresses : Addresses) (found : List MessageHandler) :
    ((collect addresses found).map handler).Perm (kept found) ∧
      ∀ h ∈ collect addresses found, ∃ i < found.length, h.address = addresses.address i := by
  induction found using List.reverseRecOn with
  | nil => exact ⟨List.Perm.refl _, fun h hmem => absurd hmem List.not_mem_nil⟩
  | append_singleton found handler ih =>
    obtain ⟨hperm, haddress⟩ := ih
    have hcollect : collect addresses (found ++ [handler]) =
        insertInto (collect addresses found) ⟨addresses.address found.length, handler⟩ := by
      rw [collect, List.zipIdx_append, List.foldl_append]
      simp [collect]
    have hnew : ∀ h ∈ collect addresses found, h.address ≠ addresses.address found.length := by
      intro h hmem heq
      obtain ⟨i, hlt, hi⟩ := haddress h hmem
      exact absurd (addresses.injective (hi.symm.trans heq)) (Nat.ne_of_lt hlt)
    rw [hcollect]
    cases hpointer : handler.isFunctionPointer with
    | true =>
      have hinsert := insertInto_functionPointer_perm hpointer hnew
      refine ⟨?_, fun h hmem => ?_⟩
      · refine (hinsert.map _).trans ((hperm.cons handler).trans ?_)
        exact (kept_append_functionPointer found hpointer).symm
      · rw [hinsert.mem_iff, List.mem_cons] at hmem
        rcases hmem with rfl | hmem
        · exact ⟨found.length, by simp, rfl⟩
        · obtain ⟨i, hlt, hi⟩ := haddress h hmem
          exact ⟨i, by simp; omega, hi⟩
    | false =>
      have hinsert := insertInto_callable_perm (collect addresses found)
        (addresses.address found.length) hpointer
      have hexists : (∃ h ∈ collect addresses found, h.handler.isFunctionPointer = false) ↔
          ∃ h ∈ kept found, h.isFunctionPointer = false := by
        simp only [← hperm.mem_iff, List.mem_map, exists_exists_and_eq_and]
      have hkept := kept_append_callable found hpointer
      simp only [hexists] at hinsert
      split at hinsert
      next h =>
        rw [if_pos h] at hkept
        refine ⟨(hinsert.map _).trans (hperm.trans hkept.symm), fun h hmem => ?_⟩
        obtain ⟨i, hlt, hi⟩ := haddress h (hinsert.mem_iff.mp hmem)
        exact ⟨i, by simp; omega, hi⟩
      next h =>
        rw [if_neg h] at hkept
        refine ⟨(hinsert.map _).trans ((hperm.cons handler).trans hkept.symm), fun h hmem => ?_⟩
        rcases List.mem_cons.mp (hinsert.mem_iff.mp hmem) with rfl | hmem
        · exact ⟨found.length, by simp, rfl⟩
        · obtain ⟨i, hlt, hi⟩ := haddress h hmem
          exact ⟨i, by simp; omega, hi⟩

/-- A function pointer is kept as often as it is found. -/
lemma count_kept_functionPointer (found : List MessageHandler) (function : ℕ) :
    (kept found).count (.functionPointer function) = found.count (.functionPointer function) := by
  have hfind : (found.find? fun h => !h.isFunctionPointer).toList.count
      (.functionPointer function) = 0 := by
    rw [List.count_eq_zero]
    intro hmem
    have := List.find?_some (Option.mem_toList.mp hmem)
    simp [MessageHandler.isFunctionPointer] at this
  rw [kept, List.count_append, hfind, Nat.add_zero, List.count_filter rfl]

/-- Another callable is kept once if it is the first that is found, and otherwise not. -/
lemma count_kept_callable (found : List MessageHandler) (object : ℕ) :
    (kept found).count (.callable object) =
      if found.find? (fun h => !h.isFunctionPointer) = some (.callable object) then 1 else 0 := by
  have hfilter : (found.filter (·.isFunctionPointer)).count (.callable object) = 0 := by
    rw [List.count_eq_zero]
    intro hmem
    exact Bool.false_ne_true (List.mem_filter.mp hmem).2
  rw [kept, List.count_append, hfilter, Nat.zero_add]
  cases found.find? fun h => !h.isFunctionPointer with
  | none => simp
  | some h => simp [List.count_singleton]

end StoredHandler

namespace Application

variable {a : Application} {m : ReceivedMessage}

/-- The members of a list that is made of an option. -/
lemma mem_elim_nil_iff {α β : Type} (o : Option α) (f : α → List β) (b : β) :
    b ∈ o.elim [] f ↔ ∃ a, o = some a ∧ b ∈ f a := by
  cases o with
  | none => simp
  | some a => simp

/-- What the searches find are the handlers that match. -/
lemma mem_foundHandlers_iff (handler : MessageHandler) :
    handler ∈ a.members.foundHandlers m.service m.inst m.method ↔ a.Matches m handler := by
  simp only [Members.foundHandlers, Matches, Members.find, List.mem_flatMap, List.mem_filterMap,
    mem_elim_nil_iff, Option.bind_eq_bind, Option.bind_eq_some_iff, List.mem_cons, List.not_mem_nil,
    or_false]
  constructor
  · rintro ⟨service, hservice, instances, hinstances, inst, hinst, methods, hmethods, method, hmethod, h⟩
    exact ⟨service, inst, method, hservice, hinst, hmethod, instances, hinstances, methods, hmethods, h⟩
  · rintro ⟨service, inst, method, hservice, hinst, hmethod, instances, hinstances, methods, hmethods, h⟩
    exact ⟨service, hservice, instances, hinstances, inst, hinst, methods, hmethods, method, hmethod, h⟩

/-- The kept handlers are those that were found, once each, exactly if they are told apart. -/
lemma kept_once_iff (found : List MessageHandler) :
    (∀ handler, (handler ∈ found → (StoredHandler.kept found).count handler = 1) ∧
      (handler ∉ found → (StoredHandler.kept found).count handler = 0)) ↔ ToldApart found := by
  constructor
  · intro h
    refine ⟨fun function => ?_, fun object object' hmem hmem' => ?_⟩
    · have hcount := StoredHandler.count_kept_functionPointer found function
      by_cases hmem : MessageHandler.functionPointer function ∈ found
      · exact (hcount.symm.trans ((h _).1 hmem)).le
      · exact (hcount.symm.trans ((h _).2 hmem)).le.trans (Nat.zero_le 1)
    · have hfirst (object : ℕ) (hmem : MessageHandler.callable object ∈ found) :
          found.find? (fun h => !h.isFunctionPointer) = some (.callable object) := by
        have hcount := (h _).1 hmem
        rw [StoredHandler.count_kept_callable] at hcount
        by_contra hne
        rw [if_neg hne] at hcount
        exact Nat.zero_ne_one hcount
      have heq := (hfirst object hmem).symm.trans (hfirst object' hmem')
      simpa using heq
  · rintro ⟨hpointers, hcallables⟩ handler
    cases handler with
    | functionPointer function =>
      rw [StoredHandler.count_kept_functionPointer]
      refine ⟨fun hmem => ?_, List.count_eq_zero.mpr⟩
      exact Nat.le_antisymm (hpointers function) (List.count_pos_iff.mpr hmem)
    | callable object =>
      rw [StoredHandler.count_kept_callable]
      constructor
      · intro hmem
        have hsome : (found.find? fun h => !h.isFunctionPointer).isSome :=
          List.find?_isSome.mpr ⟨_, hmem, rfl⟩
        obtain ⟨first, hfirst⟩ := Option.isSome_iff_exists.mp hsome
        cases first with
        | functionPointer function => exact absurd (List.find?_some hfirst) Bool.false_ne_true
        | callable object' =>
          rw [hcallables object object' hmem (List.mem_of_find?_eq_some hfirst), if_pos hfirst]
      · intro hmem
        rw [if_neg]
        exact fun hfind => hmem (List.mem_of_find?_eq_some hfind)

/-- **For every table of handlers and every message that passes the check of the subscription, each
handler that matches is called once and no other, exactly if the searches find no function pointer twice
and not two different other callables.** -/
theorem callsEachOnce_iff (a : Application) (m : ReceivedMessage)
    (isActive : UInt16 → UInt16 → UInt16 → Bool) (addresses : Addresses)
    (hpass : m.isNotification = true → isActive m.service m.inst m.method = true) :
    a.CallsEachOnce m (a.onMessage m isActive addresses) ↔
      ToldApart (a.members.foundHandlers m.service m.inst m.method) := by
  set found := a.members.foundHandlers m.service m.inst m.method
  set call : StoredHandler → MessageCall := fun stored =>
    { handler := stored.handler, message := m, serviceId := m.service, instanceId := m.inst,
      methodId := m.method, sessionId := m.session }
  have hqueue : (a.onMessage m isActive addresses).handlers =
      a.handlers ++ (StoredHandler.collect addresses found).map call := by
    rw [onMessage, if_neg]
    cases hnotification : m.isNotification with
    | true => simp [hpass hnotification]
    | false => simp
  have hhandlers : (((StoredHandler.collect addresses found).map call).map MessageCall.handler).Perm
      (StoredHandler.kept found) := by
    rw [List.map_map]
    exact (StoredHandler.collect_perm addresses found).1
  have hmatches (handler : MessageHandler) : handler ∈ found ↔ a.Matches m handler :=
    mem_foundHandlers_iff handler
  rw [← kept_once_iff]
  simp only [hmatches, ← hhandlers.count_eq]
  constructor
  · rintro ⟨calls, hcalls, -, hcount⟩
    rw [hqueue] at hcalls
    rwa [List.append_cancel_left hcalls]
  · intro hcount
    refine ⟨_, hqueue, fun c hmem => ?_, hcount⟩
    obtain ⟨stored, -, rfl⟩ := List.mem_map.mp hmem
    rfl

/-- A request of the method `0x0001`. -/
def request : ReceivedMessage :=
  ⟨⟨{ MessageHeaderImpl.default with service := 0x1111, method := 0x0001, type := 0x00 }, none⟩, 0x2222⟩

/-- An application with a handler for the method of the request, and one for all methods. -/
def twoHandlers (handler handler' : MessageHandler) : Application :=
  ⟨((∅ : Members).registerMessageHandler 0x1111 0x2222 0x0001 handler).registerMessageHandler
    0x1111 0x2222 anyMethod handler', []⟩

/-- A function for the method and a callable for all methods are both called. -/
theorem callsEachOnce_pointer_and_callable :
    (twoHandlers (.functionPointer 1) (.callable 2)).CallsEachOnce request
      ((twoHandlers (.functionPointer 1) (.callable 2)).onMessage request (fun _ _ _ => false)
        ⟨id, Function.injective_id⟩) := by
  have hfound : (twoHandlers (.functionPointer 1) (.callable 2)).members.foundHandlers
      request.service request.inst request.method = [.functionPointer 1, .callable 2] := by decide
  refine (callsEachOnce_iff _ _ _ _ (by decide)).mpr ⟨fun function => ?_, fun object object' => ?_⟩
  · rw [hfound, List.count_cons, List.count_eq_zero.mpr (by simp)]
    split <;> decide
  · rw [hfound]
    simp +contextual

/-- Of two lambdas, one for the method and one for all methods, the second one is not called. -/
theorem not_callsEachOnce_lambdas : ¬ ∀ a m isActive addresses,
    (m.isNotification = true → isActive m.service m.inst m.method = true) →
      CallsEachOnce a m (a.onMessage m isActive addresses) := by
  intro h
  obtain ⟨calls, hcalls, -, hcount⟩ := h (twoHandlers (.callable 1) (.callable 2)) request
    (fun _ _ _ => false) ⟨id, Function.injective_id⟩ (by decide)
  have hmatches : (twoHandlers (.callable 1) (.callable 2)).Matches request (.callable 2) :=
    ⟨0x1111, 0x2222, anyMethod, Or.inl rfl, Or.inl rfl, Or.inr rfl, by decide⟩
  have hone := (hcount (.callable 2)).1 hmatches
  rw [show calls = _ from (List.nil_append calls).symm.trans hcalls.symm] at hone
  exact absurd hone (by decide)

end Application

end Vsomeip
