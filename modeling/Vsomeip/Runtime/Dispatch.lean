import Mathlib.Data.List.Basic
import Mathlib.Data.List.Nodup
import Mathlib.Logic.Function.Basic
import Vsomeip.Lib.Runs

set_option relaxedAutoImplicit false
set_option autoImplicit false

/-!
# Scheduling of handlers

An application pushes the handlers of messages, of availabilities and of other things onto the back of
`handlers_`, from which the dispatcher threads take them. While the handler of an availability of an
instance runs, the next one of the same instance has to wait, and with it all messages of the instance
that come after it: they are moved to `availability_handlers_`, behind the handler that runs, and back
to the front of `handlers_` when it returns.

All changes are made under `handlers_mutex_`, so a step is what one thread does while it holds the
mutex. Which thread takes a step is left open; in particular a thread that is not an active dispatcher
takes none. Dispatching is on. A missing list in `availability_handlers_` and an empty one are the
same.

## Main definitions

* `Vsomeip.Dispatch` — the two tables, what the threads run, and what was pushed, started and finished.
* `Vsomeip.Dispatch.getNextHandler`, `Vsomeip.Dispatch.rescheduleAvailabilityHandler` — the steps.
* `Vsomeip.Dispatch.Scheduled` — what the scheduling is for.

## Main results

* `Vsomeip.Dispatch.scheduled_run` — in every interleaving the handlers of availabilities exclude each
  other, the handlers of an instance are started in order, and no handler is lost or run twice.
-/

namespace Vsomeip

/-- `handler_type_e`. -/
inductive HandlerType
  | message
  | availability
  | state
  | subscription
  | offeredServicesInfo
  | watchdog
  | unknown
deriving DecidableEq

/-- `sync_handler`. Handlers are compared by their address, for which `id` stands. -/
structure SyncHandler where
  id : ℕ
  serviceId : UInt16
  instanceId : UInt16
  handlerType : HandlerType
deriving DecidableEq

/-- The `its_si_pair` of a handler. -/
def SyncHandler.siPair (h : SyncHandler) : UInt16 × UInt16 :=
  (h.serviceId, h.instanceId)

/-- The part of an application that is about handlers. -/
structure Dispatch where
  handlers : List SyncHandler
  availabilityHandlers : UInt16 × UInt16 → List SyncHandler
  /-- The handler that a dispatcher thread has taken and not yet rescheduled. -/
  running : ℕ → Option SyncHandler
  /-- All handlers, in the order in which they were pushed. -/
  pushed : List SyncHandler
  /-- The handlers that were taken by a thread, in this order. -/
  started : List SyncHandler
  finished : List SyncHandler

namespace Dispatch

/-- An application without handlers. -/
def init : Dispatch :=
  ⟨[], fun _ => [], fun _ => none, [], [], []⟩

/-! ## Steps -/

/-- A handler waits behind the others of its pair. -/
def wait (waiting : UInt16 × UInt16 → List SyncHandler) (h : SyncHandler) :
    UInt16 × UInt16 → List SyncHandler :=
  Function.update waiting h.siPair (waiting h.siPair ++ [h])

/-- `application_impl::get_next_handler`, from `availability_handlers_` and `handlers_`: the next
handler and the two tables. -/
def getNextHandler (waiting : UInt16 × UInt16 → List SyncHandler) :
    List SyncHandler →
      Option SyncHandler × (UInt16 × UInt16 → List SyncHandler) × List SyncHandler
  | [] => (none, waiting, [])
  | h :: handlers =>
    match h.handlerType with
    | .availability =>
      match waiting h.siPair with
      | [] => (some h, wait waiting h, handlers)
      | front :: _ =>
        if front ≠ h then getNextHandler (wait waiting h) handlers
        else (some h, wait waiting h, handlers)
    | .message =>
      if 1 < (waiting h.siPair).length then getNextHandler (wait waiting h) handlers
      else (some h, waiting, handlers)
    | _ => (some h, waiting, handlers)

variable (s : Dispatch)

/-- A thread takes the next handler, if there is one. -/
def take (thread : ℕ) : Dispatch :=
  let x := getNextHandler s.availabilityHandlers s.handlers
  match x.1 with
  | none => { s with availabilityHandlers := x.2.1, handlers := x.2.2 }
  | some h =>
    { s with
      availabilityHandlers := x.2.1
      handlers := x.2.2
      running := Function.update s.running thread (some h)
      started := s.started ++ [h] }

/-- `application_impl::reschedule_availability_handler`. -/
def rescheduleAvailabilityHandler (h : SyncHandler) : Dispatch :=
  if h.handlerType = .availability then
    match s.availabilityHandlers h.siPair with
    | [] => s
    | front :: waiting =>
      if front = h then
        { s with
          handlers := waiting ++ s.handlers
          availabilityHandlers := Function.update s.availabilityHandlers h.siPair [] }
      else s
  else s

/-- What happens to the application: a handler is pushed, an idle thread looks for the next handler, or
the handler of a thread has returned and the thread has the mutex again. -/
inductive Action
  | push (serviceId instanceId : UInt16) (handlerType : HandlerType)
  | next (thread : ℕ)
  | done (thread : ℕ)

/-- The application after an action. -/
def step (s : Dispatch) : Action → Dispatch
  | .push serviceId instanceId handlerType =>
    let h : SyncHandler := ⟨s.pushed.length, serviceId, instanceId, handlerType⟩
    { s with handlers := s.handlers ++ [h], pushed := s.pushed ++ [h] }
  | .next thread =>
    match s.running thread with
    | none => s.take thread
    | some _ => s
  | .done thread =>
    match s.running thread with
    | none => s
    | some h =>
      { s.rescheduleAvailabilityHandler h with
        running := Function.update s.running thread none
        finished := s.finished ++ [h] }

/-! ## What the scheduling is for -/

/-- The pair of a handler whose order matters: of an availability or of a message. -/
def lane (h : SyncHandler) : Option (UInt16 × UInt16) :=
  match h.handlerType with
  | .availability => some h.siPair
  | .message => some h.siPair
  | _ => none

/-- Where a handler can be. -/
inductive Place
  | queued
  | waiting
  | running
  | finished

/-- A handler is at a place. -/
def At (h : SyncHandler) : Place → Prop
  | .queued => h ∈ s.handlers
  | .waiting => ∃ pair, h ∈ (s.availabilityHandlers pair).tail
  | .running => ∃ thread, s.running thread = some h
  | .finished => h ∈ s.finished

/-- What the scheduling is for. -/
structure Scheduled (s : Dispatch) : Prop where
  /-- The handlers of the availabilities of an instance exclude each other. -/
  exclusive : ∀ ⦃t t' : ℕ⦄ ⦃h h' : SyncHandler⦄, s.running t = some h → s.running t' = some h' →
    h.handlerType = .availability → h'.handlerType = .availability → h.siPair = h'.siPair → t = t'
  /-- The handlers of availabilities and messages of an instance are started in the order in which they
  were pushed, and none of them is passed over. -/
  ordered : ∀ pair, s.started.filter (lane · = some pair) <+: s.pushed.filter (lane · = some pair)
  /-- Every handler is at exactly one place. -/
  place : ∀ h ∈ s.pushed, ∃! p, s.At h p
  /-- A handler is at a place once. -/
  once : s.handlers.Nodup ∧ (∀ pair, (s.availabilityHandlers pair).Nodup) ∧
    (∀ ⦃t t' : ℕ⦄ ⦃h : SyncHandler⦄, s.running t = some h → s.running t' = some h → t = t') ∧
    s.finished.Nodup
  /-- It waits in the list of its own instance only. -/
  own : ∀ ⦃h : SyncHandler⦄ ⦃pair⦄, h ∈ s.availabilityHandlers pair → h.siPair = pair
  /-- A handler that waits has a handler of an availability ahead of it, which runs. -/
  awaited : ∀ ⦃pair⦄, (s.availabilityHandlers pair).tail ≠ [] → ∃ thread front,
    (s.availabilityHandlers pair).head? = some front ∧ s.running thread = some front ∧
      front.handlerType = .availability
  /-- No handler is started twice. -/
  started : s.started.Nodup

/-! ## The next handler -/

/-- The handlers of a lane that wait. -/
def waitingIn (waiting : UInt16 × UInt16 → List SyncHandler) :
    Option (UInt16 × UInt16) → List SyncHandler
  | none => []
  | some pair => (waiting pair).tail

variable {s : Dispatch} {h : SyncHandler} {waiting : UInt16 × UInt16 → List SyncHandler}
  {handlers : List SyncHandler} {l : Option (UInt16 × UInt16)} {pair : UInt16 × UInt16}

/-- A handler that waits changes only its own service instance. -/
lemma wait_of_ne (hpair : pair ≠ h.siPair) : wait waiting h pair = waiting pair := by
  rw [wait, Function.update_of_ne hpair]

/-- A handler waits behind the others of its service instance. -/
@[simp] lemma wait_self : wait waiting h h.siPair = waiting h.siPair ++ [h] := by
  rw [wait, Function.update_self]

/-- A handler that waits is the last one of its lane. -/
lemma waitingIn_wait (hlane : lane h = some h.siPair) (hne : waiting h.siPair ≠ []) :
    waitingIn (wait waiting h) l = waitingIn waiting l ++ if lane h = l then [h] else [] := by
  cases l with
  | none => simp [waitingIn, hlane]
  | some pair =>
    by_cases hpair : pair = h.siPair
    · subst hpair
      simp [waitingIn, hlane, List.tail_append_of_ne_nil hne]
    · have hneq : ¬ lane h = some pair := by
        rw [hlane, Option.some.injEq]
        exact Ne.symm hpair
      simp [waitingIn, wait_of_ne hpair, hneq]

/-- A handler that waits is not the first one of its list. -/
lemma head?_wait (hne : waiting h.siPair ≠ []) : (wait waiting h pair).head? = (waiting pair).head? := by
  by_cases hpair : pair = h.siPair
  · subst hpair
    rw [wait_self, List.head?_append_of_ne_nil _ hne]
  · rw [wait_of_ne hpair]

/-- Where nobody waits after a handler joins others. -/
lemma wait_eq_nil_iff (hne : waiting h.siPair ≠ []) : wait waiting h pair = [] ↔ waiting pair = [] := by
  rw [← List.head?_eq_none_iff, head?_wait hne, List.head?_eq_none_iff]

/-- Who waits after a handler joins. -/
lemma mem_wait {h' : SyncHandler} (hmem : h' ∈ wait waiting h pair) :
    h' ∈ waiting pair ∨ h' = h ∧ pair = h.siPair := by
  by_cases hpair : pair = h.siPair
  · subst hpair
    rw [wait_self, List.mem_append, List.mem_singleton] at hmem
    exact hmem.imp_right fun heq => ⟨heq, rfl⟩
  · rw [wait_of_ne hpair] at hmem
    exact .inl hmem

/-- What `get_next_handler` does: `x` is what it returns. -/
structure TakesNext (waiting : UInt16 × UInt16 → List SyncHandler) (handlers : List SyncHandler)
    (x : Option SyncHandler × (UInt16 × UInt16 → List SyncHandler) × List SyncHandler) : Prop where
  /-- The handlers of a lane stay in their order. -/
  lanes : ∀ l, waitingIn waiting l ++ handlers.filter (lane · = l) =
    x.1.toList.filter (lane · = l) ++ (waitingIn x.2.1 l ++ x.2.2.filter (lane · = l))
  /-- The handler of an availability is taken only if there was none of its pair. -/
  taken : ∀ ⦃h : SyncHandler⦄, x.1 = some h → h.handlerType = .availability →
    waiting h.siPair = [] ∧ x.2.1 h.siPair = [h]
  head? : ∀ ⦃pair⦄, (∀ h, x.1 = some h → h.handlerType = .availability → h.siPair ≠ pair) →
    (x.2.1 pair).head? = (waiting pair).head?
  mem : ∀ ⦃h : SyncHandler⦄ ⦃pair⦄, h ∈ x.2.1 pair → h ∈ waiting pair ∨ lane h = some pair

/-- A handler that has to wait makes no difference to the others. -/
lemma TakesNext.of_wait (hlane : lane h = some h.siPair) (hne : waiting h.siPair ≠ [])
    {x : Option SyncHandler × (UInt16 × UInt16 → List SyncHandler) × List SyncHandler}
    (hx : TakesNext (wait waiting h) handlers x) : TakesNext waiting (h :: handlers) x where
  lanes l := by
    rw [← hx.lanes l, waitingIn_wait hlane hne, List.filter_cons, List.append_assoc]
    by_cases hl : lane h = l
    · simp [hl]
    · simp [hl]
  taken h' hh' htype := by
    obtain ⟨hempty, heq⟩ := hx.taken hh' htype
    exact ⟨(wait_eq_nil_iff hne).mp hempty, heq⟩
  head? pair hpair := (hx.head? hpair).trans (head?_wait hne)
  mem h' pair hmem := by
    rcases hx.mem hmem with hmem | hmem
    · rcases mem_wait hmem with hmem | ⟨rfl, rfl⟩
      · exact .inl hmem
      · exact .inr hlane
    · exact .inr hmem

/-- The handler of an availability that has not to wait. -/
lemma TakesNext.of_take (hlane : lane h = some h.siPair) (htype : h.handlerType = .availability)
    (hempty : waiting h.siPair = []) :
    TakesNext waiting (h :: handlers) (some h, wait waiting h, handlers) where
  lanes l := by
    by_cases hl : lane h = l
    · subst hl
      simp [hlane, waitingIn, hempty]
    · have heq : waitingIn (wait waiting h) l = waitingIn waiting l := by
        cases l with
        | none => rfl
        | some pair =>
          rw [hlane, Option.some.injEq] at hl
          rw [waitingIn, wait_of_ne (Ne.symm hl), waitingIn]
      simp [hl, heq]
  taken h' heq _ := by
    obtain rfl : h = h' := Option.some.inj heq
    exact ⟨hempty, by simp [hempty]⟩
  head? pair hpair := congrArg List.head? (wait_of_ne (Ne.symm (hpair h rfl htype)))
  mem h' pair hmem := by
    rcases mem_wait hmem with hmem | ⟨rfl, rfl⟩
    · exact .inl hmem
    · exact .inr hlane

/-- **Proof sketch.** Induction on `handlers_`, over the branches of the loop. A handler that is taken
is the first one of its lane, since nothing waits there. -/
lemma takesNext_getNextHandler : ∀ {handlers : List SyncHandler}
    {waiting : UInt16 × UInt16 → List SyncHandler},
    (∀ h ∈ handlers, ∀ pair, (waiting pair).head? ≠ some h) →
    TakesNext waiting handlers (getNextHandler waiting handlers)
  | [], waiting, _ => by
    rw [getNextHandler]
    exact ⟨by simp, by simp, fun _ _ => rfl, fun _ _ hmem => .inl hmem⟩
  | h :: handlers, waiting, hfronts => by
    obtain ⟨hfront, hfronts⟩ := List.forall_mem_cons.mp hfronts
    -- the fronts of the lists are not among the remaining handlers
    have hrest (hne : waiting h.siPair ≠ []) :
        ∀ h' ∈ handlers, ∀ pair, (wait waiting h pair).head? ≠ some h' := by
      intro h' hh' pair
      rw [head?_wait hne]
      exact hfronts h' hh' pair
    rw [getNextHandler]
    split
    · rename_i htype
      have hlane : lane h = some h.siPair := by simp [lane, htype]
      split
      · rename_i hempty
        exact .of_take hlane htype hempty
      · rename_i front rest hlist
        have hne : waiting h.siPair ≠ [] := by simp [hlist]
        have hneq : front ≠ h := by
          rintro rfl
          exact hfront front.siPair (by rw [hlist, List.head?_cons])
        rw [if_pos hneq]
        exact .of_wait hlane hne (takesNext_getNextHandler (hrest hne))
    · rename_i htype
      have hlane : lane h = some h.siPair := by simp [lane, htype]
      split
      · rename_i hlength
        have hne : waiting h.siPair ≠ [] := by
          intro hnil
          simp [hnil] at hlength
        exact .of_wait hlane hne (takesNext_getNextHandler (hrest hne))
      · rename_i hlength
        have hnil : (waiting h.siPair).tail = [] := by
          rw [← List.length_eq_zero_iff, List.length_tail]
          omega
        refine ⟨fun l => ?_, ?_, fun _ _ => rfl, fun _ _ hmem => .inl hmem⟩
        · by_cases hl : lane h = l
          · subst hl
            simp [hlane, waitingIn, hnil]
          · simp [hl]
        · rintro h' heq htype'
          obtain rfl : h = h' := Option.some.inj heq
          rw [htype] at htype'
          cases htype'
    · rename_i hav hmsg
      have hlane : lane h = none := by
        rw [lane]
        split
        · exact absurd ‹_› hav
        · exact absurd ‹_› hmsg
        · rfl
      refine ⟨fun l => ?_, ?_, fun _ _ => rfl, fun _ _ hmem => .inl hmem⟩
      · by_cases hl : lane h = l
        · subst hl
          simp [hlane, waitingIn]
        · simp [hl]
      · rintro h' heq htype
        obtain rfl : h = h' := Option.some.inj heq
        exact absurd htype hav


/-! ## Runs -/

/-- What holds in every run. -/
structure Inv (s : Dispatch) : Prop where
  /-- The handlers of a lane have been started, wait or are queued, in this order. -/
  lanes : ∀ l, s.pushed.filter (lane · = l) = s.started.filter (lane · = l) ++
    (waitingIn s.availabilityHandlers l ++ s.handlers.filter (lane · = l))
  nodup : s.pushed.Nodup
  fresh : ∀ h ∈ s.pushed, h.id < s.pushed.length
  own : ∀ ⦃h : SyncHandler⦄ ⦃pair⦄, h ∈ s.availabilityHandlers pair → lane h = some pair
  front : ∀ ⦃pair⦄ ⦃h : SyncHandler⦄, (s.availabilityHandlers pair).head? = some h →
    h.handlerType = .availability ∧ ∃ thread, s.running thread = some h
  busy : ∀ ⦃thread : ℕ⦄ ⦃h : SyncHandler⦄, s.running thread = some h →
    h.handlerType = .availability → (s.availabilityHandlers h.siPair).head? = some h
  taken : ∀ h, h ∈ s.started ↔ (∃ thread, s.running thread = some h) ∨ h ∈ s.finished
  single : ∀ ⦃t t' : ℕ⦄ ⦃h : SyncHandler⦄, s.running t = some h → s.running t' = some h → t = t'
  finishedNodup : s.finished.Nodup
  notFinished : ∀ ⦃thread : ℕ⦄ ⦃h : SyncHandler⦄, s.running thread = some h → h ∉ s.finished

/-- The invariant holds at the start. -/
lemma inv_init : init.Inv where
  lanes l := by cases l <;> rfl
  nodup := List.nodup_nil
  fresh _ h := by cases h
  own _ _ h := by cases h
  front _ _ h := by cases h
  busy _ _ h := by cases h
  taken h := by simp [init]
  single _ _ _ h := by cases h
  finishedNodup := List.nodup_nil
  notFinished _ _ h := by cases h

/-- No handler of a lane is at two places. -/
lemma Inv.nodup_lane (hs : s.Inv) (l : Option (UInt16 × UInt16)) :
    (s.started.filter (lane · = l) ++ (waitingIn s.availabilityHandlers l ++
      s.handlers.filter (lane · = l))).Nodup := by
  rw [← hs.lanes l]
  exact hs.nodup.filter _

/-- Every handler that was pushed has been started, waits or is queued. -/
lemma Inv.mem_pushed_iff (hs : s.Inv) : h ∈ s.pushed ↔
    h ∈ s.started ∨ h ∈ waitingIn s.availabilityHandlers (lane h) ∨ h ∈ s.handlers := by
  have hmem : h ∈ s.pushed ↔ h ∈ s.pushed.filter (lane · = lane h) := by simp
  rw [hmem, hs.lanes (lane h)]
  simp

/-- A handler that has started is not queued. -/
lemma Inv.not_queued_of_started (hs : s.Inv) (h₁ : h ∈ s.started) : h ∉ s.handlers := by
  intro h₂
  refine (List.nodup_append.mp (hs.nodup_lane (lane h))).2.2 h (by simp [h₁]) h ?_ rfl
  simp [h₂]

/-- A handler that has started does not wait. -/
lemma Inv.not_waiting_of_started (hs : s.Inv) (h₁ : h ∈ s.started) :
    h ∉ waitingIn s.availabilityHandlers (lane h) := by
  intro h₂
  refine (List.nodup_append.mp (hs.nodup_lane (lane h))).2.2 h (by simp [h₁]) h ?_ rfl
  simp [h₂]

/-- A handler that is queued does not wait. -/
lemma Inv.not_waiting_of_queued (hs : s.Inv) (h₁ : h ∈ s.handlers) :
    h ∉ waitingIn s.availabilityHandlers (lane h) := by
  intro h₂
  have hnodup := (List.nodup_append.mp (hs.nodup_lane (lane h))).2.1
  exact (List.nodup_append.mp hnodup).2.2 h h₂ h (by simp [h₁]) rfl

/-- The handlers at the front of the lists run, so they are not queued. -/
lemma Inv.front_not_queued (hs : s.Inv) : ∀ h ∈ s.handlers, ∀ pair,
    (s.availabilityHandlers pair).head? ≠ some h := by
  intro h hh pair hfront
  obtain ⟨-, hrunning⟩ := hs.front hfront
  exact hs.not_queued_of_started ((hs.taken h).mpr (.inl hrunning)) hh

/-- A handler is pushed. -/
lemma Inv.push (hs : s.Inv) (serviceId instanceId : UInt16) (handlerType : HandlerType) :
    (s.step (.push serviceId instanceId handlerType)).Inv where
  lanes l := by
    simp only [step, List.filter_append, hs.lanes l, List.append_assoc]
  nodup := by
    refine List.nodup_append.mpr ⟨hs.nodup, List.nodup_singleton _, ?_⟩
    rintro h hh h' hh' rfl
    rw [List.mem_singleton] at hh'
    have hlt := hs.fresh h hh
    rw [hh'] at hlt
    exact Nat.lt_irrefl _ hlt
  fresh h hh := by
    simp only [step, List.mem_append, List.mem_singleton, List.length_append,
      List.length_singleton] at hh ⊢
    rcases hh with hh | rfl
    · exact Nat.lt_succ_of_lt (hs.fresh h hh)
    · exact Nat.lt_succ_self _
  own := hs.own
  front := hs.front
  busy := hs.busy
  taken := hs.taken
  single := hs.single
  finishedNodup := hs.finishedNodup
  notFinished := hs.notFinished

/-- The handlers that run when an idle thread has started one. -/
lemma running_start_iff {thread t : ℕ} {h' : SyncHandler} (hidle : s.running thread = none) :
    Function.update s.running thread (some h) t = some h' ↔
      t = thread ∧ h' = h ∨ s.running t = some h' := by
  by_cases ht : t = thread
  · subst ht
    simp [hidle, eq_comm]
  · simp [ht]

/-- The handler that is taken is the first one of its lane that is not started. -/
lemma Inv.lanes_start (hs : s.Inv)
    (hnext : TakesNext s.availabilityHandlers s.handlers (some h, waiting, handlers))
    (l : Option (UInt16 × UInt16)) :
    s.pushed.filter (lane · = l) = (s.started ++ [h]).filter (lane · = l) ++
      (waitingIn waiting l ++ handlers.filter (lane · = l)) := by
  rw [hs.lanes l, hnext.lanes l, List.filter_append, List.append_assoc]
  rfl

/-- The next handler has not started yet. -/
lemma Inv.not_started_of_next (hs : s.Inv)
    (hnext : TakesNext s.availabilityHandlers s.handlers (some h, waiting, handlers)) :
    h ∉ s.started := by
  intro hmem
  have hnodup := hs.nodup.filter (lane · = lane h)
  rw [hs.lanes_start hnext (lane h), List.filter_append] at hnodup
  refine (List.nodup_append.mp (List.nodup_append.mp hnodup).1).2.2 h ?_ h ?_ rfl
  · simp [hmem]
  · simp

/-- The fronts of the lists run when the handler that is taken has been started. -/
lemma Inv.front_start (hs : s.Inv) {thread : ℕ} {h' : SyncHandler} (hidle : s.running thread = none)
    (hnext : TakesNext s.availabilityHandlers s.handlers (some h, waiting, handlers))
    (hfront : (waiting pair).head? = some h') :
    h'.handlerType = .availability ∧
      ∃ t, Function.update s.running thread (some h) t = some h' := by
  by_cases hcase : h.handlerType = .availability ∧ h.siPair = pair
  · obtain ⟨htype, rfl⟩ := hcase
    have hlist : waiting h.siPair = [h] := (hnext.taken rfl htype).2
    obtain rfl : h = h' := by simpa [hlist] using hfront
    exact ⟨htype, thread, by simp⟩
  · have hhead : (waiting pair).head? = (s.availabilityHandlers pair).head? := by
      refine hnext.head? fun h'' heq htype hpair => hcase ?_
      obtain rfl : h = h'' := Option.some.inj heq
      exact ⟨htype, hpair⟩
    obtain ⟨htype, t, hrun⟩ := hs.front (hhead.symm.trans hfront)
    exact ⟨htype, t, (running_start_iff hidle).mpr (.inr hrun)⟩

/-- The front of a list stays while it runs. -/
lemma Inv.busy_start (hs : s.Inv) {t : ℕ} {h' : SyncHandler}
    (hnext : TakesNext s.availabilityHandlers s.handlers (some h, waiting, handlers))
    (hrun : s.running t = some h') (htype : h'.handlerType = .availability) :
    (waiting h'.siPair).head? = some h' := by
  have hbusy := hs.busy hrun htype
  refine Eq.trans (hnext.head? fun h'' heq htype' hpair => ?_) hbusy
  have hempty := (hnext.taken heq htype').1
  rw [hpair] at hempty
  simp [hempty] at hbusy

/-- The handlers that were taken run or have finished, when one more has been started. -/
lemma Inv.taken_start (hs : s.Inv) {thread : ℕ} (hidle : s.running thread = none)
    (h' : SyncHandler) : h' ∈ s.started ++ [h] ↔
      (∃ t, Function.update s.running thread (some h) t = some h') ∨ h' ∈ s.finished := by
  rw [List.mem_append, hs.taken h', List.mem_singleton]
  simp only [running_start_iff hidle]
  constructor
  · rintro ((⟨t, hrun⟩ | hfin) | rfl)
    · exact .inl ⟨t, .inr hrun⟩
    · exact .inr hfin
    · exact .inl ⟨thread, .inl ⟨rfl, rfl⟩⟩
  · rintro (⟨t, ⟨-, rfl⟩ | hrun⟩ | hfin)
    · exact .inr rfl
    · exact .inl (.inl ⟨t, hrun⟩)
    · exact .inl (.inr hfin)

/-- An idle thread takes the next handler. -/
lemma Inv.take (hs : s.Inv) {thread : ℕ} (hidle : s.running thread = none) : (s.take thread).Inv := by
  have hnext := takesNext_getNextHandler hs.front_not_queued
  rw [Dispatch.take]
  generalize getNextHandler s.availabilityHandlers s.handlers = x at *
  obtain ⟨r, waiting, handlers⟩ := x
  have hown ⦃h : SyncHandler⦄ ⦃pair⦄ (hmem : h ∈ waiting pair) : lane h = some pair :=
    (hnext.mem hmem).elim (fun hmem => hs.own hmem) id
  cases r with
  | none =>
    have hhead (pair) : (waiting pair).head? = (s.availabilityHandlers pair).head? :=
      hnext.head? fun _ h => by cases h
    refine ⟨fun l => ?_, hs.nodup, hs.fresh, hown, fun pair h hfront => ?_, fun t h hrun htype => ?_,
      hs.taken, hs.single, hs.finishedNodup, hs.notFinished⟩
    · rw [hs.lanes l, hnext.lanes l]
      rfl
    · exact hs.front ((hhead pair).symm.trans hfront)
    · exact (hhead _).trans (hs.busy hrun htype)
  | some h =>
    have hfresh := hs.not_started_of_next hnext
    have hnot (t : ℕ) : s.running t ≠ some h := fun hrun => hfresh ((hs.taken h).mpr (.inl ⟨t, hrun⟩))
    refine ⟨hs.lanes_start hnext, hs.nodup, hs.fresh, hown, fun _ _ => hs.front_start hidle hnext,
      fun t h' hrun htype => ?_, hs.taken_start hidle, fun t t' h' hrun hrun' => ?_,
      hs.finishedNodup, fun t h' hrun => ?_⟩
    · rcases (running_start_iff hidle).mp hrun with ⟨-, rfl⟩ | hrun
      · have hlist : waiting h'.siPair = [h'] := (hnext.taken rfl htype).2
        simp [hlist]
      · exact hs.busy_start hnext hrun htype
    · rcases (running_start_iff hidle).mp hrun with ⟨ht, hh⟩ | hrun
      · rcases (running_start_iff hidle).mp hrun' with ⟨ht', -⟩ | hrun'
        · exact ht.trans ht'.symm
        · exact absurd (hh ▸ hrun') (hnot t')
      · rcases (running_start_iff hidle).mp hrun' with ⟨-, hh⟩ | hrun'
        · exact absurd (hh ▸ hrun) (hnot t)
        · exact hs.single hrun hrun'
    · rcases (running_start_iff hidle).mp hrun with ⟨-, rfl⟩ | hrun
      · exact fun hfin => hfresh ((hs.taken h').mpr (.inr hfin))
      · exact hs.notFinished hrun

/-- The handlers that wait for a handler that returns go back to the front, and keep their order. -/
lemma Inv.lanes_reschedule (hs : s.Inv) {rest : List SyncHandler}
    (hlist : s.availabilityHandlers pair = h :: rest) (l : Option (UInt16 × UInt16)) :
    waitingIn (Function.update s.availabilityHandlers pair []) l ++
        (rest ++ s.handlers).filter (lane · = l) =
      waitingIn s.availabilityHandlers l ++ s.handlers.filter (lane · = l) := by
  have hrest : ∀ h' ∈ rest, lane h' = some pair := fun h' hh' =>
    hs.own (hlist ▸ List.mem_cons_of_mem h hh')
  by_cases hl : l = some pair
  · subst hl
    have hall : rest.filter (lane · = some pair) = rest :=
      List.filter_eq_self.mpr fun h' hh' => by simp [hrest h' hh']
    simp [waitingIn, List.filter_append, hall, hlist]
  · have hnone : rest.filter (lane · = l) = [] :=
      List.filter_eq_nil_iff.mpr fun h' hh' => by simpa [hrest h' hh'] using Ne.symm hl
    rw [List.filter_append, hnone, List.nil_append]
    cases l with
    | none => rfl
    | some pair' =>
      have hpair : pair' ≠ pair := fun heq => hl (congrArg some heq)
      simp [waitingIn, hpair]

/-- What `reschedule_availability_handler` does for a handler that runs. -/
lemma Inv.reschedule_eq (hs : s.Inv) {thread : ℕ} (hrun : s.running thread = some h) :
    (h.handlerType ≠ .availability ∧ s.rescheduleAvailabilityHandler h = s) ∨
      h.handlerType = .availability ∧ ∃ rest, s.availabilityHandlers h.siPair = h :: rest ∧
        s.rescheduleAvailabilityHandler h =
          { s with
            handlers := rest ++ s.handlers
            availabilityHandlers := Function.update s.availabilityHandlers h.siPair [] } := by
  by_cases htype : h.handlerType = .availability
  · have hbusy := hs.busy hrun htype
    obtain ⟨rest, hlist⟩ := List.head?_eq_some_iff.mp hbusy
    refine .inr ⟨htype, rest, hlist, ?_⟩
    simp [rescheduleAvailabilityHandler, htype, hlist]
  · exact .inl ⟨htype, if_neg htype⟩

/-- The handlers that run when a handler has returned. -/
lemma Inv.running_done_iff (hs : s.Inv) {thread t : ℕ} {h' : SyncHandler}
    (hrun : s.running thread = some h) :
    Function.update s.running thread none t = some h' ↔ s.running t = some h' ∧ h' ≠ h := by
  by_cases ht : t = thread
  · subst ht
    simp [hrun, eq_comm]
  · rw [Function.update_of_ne ht]
    refine ⟨fun hrun' => ⟨hrun', ?_⟩, And.left⟩
    rintro rfl
    exact ht (hs.single hrun' hrun)

/-- The handlers that were taken run or have finished, when one of them has returned. -/
lemma Inv.taken_done (hs : s.Inv) {thread : ℕ} (hrun : s.running thread = some h)
    (h' : SyncHandler) : h' ∈ s.started ↔
      (∃ t, Function.update s.running thread none t = some h') ∨ h' ∈ s.finished ++ [h] := by
  rw [hs.taken h', List.mem_append, List.mem_singleton]
  simp only [hs.running_done_iff hrun]
  constructor
  · rintro (⟨t, hrun'⟩ | hfin)
    · by_cases hh : h' = h
      · exact .inr (.inr hh)
      · exact .inl ⟨t, hrun', hh⟩
    · exact .inr (.inl hfin)
  · rintro (⟨t, hrun', -⟩ | hfin | rfl)
    · exact .inl ⟨t, hrun'⟩
    · exact .inr hfin
    · exact .inl ⟨thread, hrun⟩

/-- A handler finishes once. -/
lemma Inv.nodup_finished_done (hs : s.Inv) {thread : ℕ} (hrun : s.running thread = some h) :
    (s.finished ++ [h]).Nodup := by
  refine List.nodup_append.mpr ⟨hs.finishedNodup, List.nodup_singleton _, ?_⟩
  rintro h' hh' h'' hh'' rfl
  rw [List.mem_singleton] at hh''
  exact hs.notFinished hrun (hh'' ▸ hh')

/-- A handler has returned. -/
lemma Inv.done (hs : s.Inv) {thread : ℕ} (hrun : s.running thread = some h) :
    Inv { s.rescheduleAvailabilityHandler h with
      running := Function.update s.running thread none
      finished := s.finished ++ [h] } := by
  have hrunning {t : ℕ} {h' : SyncHandler} :
      Function.update s.running thread none t = some h' ↔ s.running t = some h' ∧ h' ≠ h :=
    hs.running_done_iff hrun
  have hsingle ⦃t t' : ℕ⦄ ⦃h' : SyncHandler⦄
      (h₁ : Function.update s.running thread none t = some h')
      (h₂ : Function.update s.running thread none t' = some h') : t = t' :=
    hs.single (hrunning.mp h₁).1 (hrunning.mp h₂).1
  have hnot ⦃t : ℕ⦄ ⦃h' : SyncHandler⦄
      (hrun' : Function.update s.running thread none t = some h') : h' ∉ s.finished ++ [h] := by
    obtain ⟨hrun', hne⟩ := hrunning.mp hrun'
    simpa [hne] using hs.notFinished hrun'
  rcases hs.reschedule_eq hrun with ⟨htype, heq⟩ | ⟨htype, rest, hlist, heq⟩
  · rw [heq]
    refine ⟨hs.lanes, hs.nodup, hs.fresh, hs.own, fun pair h' hfront => ?_, fun t h' hrun' htype' => ?_,
      hs.taken_done hrun, hsingle, hs.nodup_finished_done hrun, hnot⟩
    · obtain ⟨htype', t, hrun'⟩ := hs.front hfront
      refine ⟨htype', t, hrunning.mpr ⟨hrun', ?_⟩⟩
      rintro rfl
      exact htype htype'
    · exact hs.busy (hrunning.mp hrun').1 htype'
  · rw [heq]
    refine ⟨fun l => ?_, hs.nodup, hs.fresh, fun h' pair hmem => ?_, fun pair h' hfront => ?_,
      fun t h' hrun' htype' => ?_, hs.taken_done hrun, hsingle, hs.nodup_finished_done hrun, hnot⟩
    · exact (hs.lanes l).trans (congrArg _ (hs.lanes_reschedule hlist l).symm)
    · by_cases hpair : pair = h.siPair
      · subst hpair
        simp at hmem
      · simp only [Function.update_of_ne hpair] at hmem
        exact hs.own hmem
    · by_cases hpair : pair = h.siPair
      · subst hpair
        simp at hfront
      · simp only [Function.update_of_ne hpair] at hfront
        obtain ⟨htype', t, hrun'⟩ := hs.front hfront
        refine ⟨htype', t, hrunning.mpr ⟨hrun', ?_⟩⟩
        rintro rfl
        have hlane := hs.own (List.mem_of_mem_head? hfront)
        rw [lane, htype, Option.some.injEq] at hlane
        exact hpair hlane.symm
    · obtain ⟨hrun', hne⟩ := hrunning.mp hrun'
      have hbusy := hs.busy hrun' htype'
      have hpair : h'.siPair ≠ h.siPair := by
        intro hpair
        rw [hpair, hlist, List.head?_cons, Option.some.injEq] at hbusy
        exact hne hbusy.symm
      simp only [Function.update_of_ne hpair]
      exact hbusy

/-- Every action keeps the invariant. -/
lemma Inv.step (hs : s.Inv) (a : Action) : (s.step a).Inv := by
  cases a with
  | push serviceId instanceId handlerType => exact hs.push serviceId instanceId handlerType
  | next thread =>
    rw [Dispatch.step]
    split
    · rename_i hidle
      exact hs.take hidle
    · exact hs
  | done thread =>
    rw [Dispatch.step]
    split
    · exact hs
    · rename_i h hrun
      exact hs.done hrun

/-- A list is without duplicates if all of its lanes are. -/
lemma nodup_of_lanes {hs : List SyncHandler} (hlanes : ∀ l, (hs.filter (lane · = l)).Nodup) :
    hs.Nodup := by
  rw [List.nodup_iff_count_le_one]
  intro h
  have hcount := List.nodup_iff_count_le_one.mp (hlanes (lane h)) h
  rwa [List.count_filter (by simp)] at hcount

/-- A handler waits in the list of its own lane. -/
lemma Inv.at_waiting_iff (hs : s.Inv) :
    s.At h .waiting ↔ h ∈ waitingIn s.availabilityHandlers (lane h) := by
  constructor
  · rintro ⟨pair, hmem⟩
    rw [hs.own (List.mem_of_mem_tail hmem)]
    exact hmem
  · intro hmem
    cases hl : lane h with
    | none =>
      rw [hl] at hmem
      cases hmem
    | some pair =>
      rw [hl] at hmem
      exact ⟨pair, hmem⟩

/-- A handler that was pushed is at exactly one place. -/
lemma Inv.existsUnique_at (hs : s.Inv) (hpushed : h ∈ s.pushed) : ∃! p, s.At h p := by
  have hstarted : h ∈ s.started ↔ s.At h .running ∨ s.At h .finished := hs.taken h
  have hwaiting := hs.at_waiting_iff (h := h)
  rcases hs.mem_pushed_iff.mp hpushed with hmem | hmem | hmem
  · have hqueued : ¬ s.At h .queued := hs.not_queued_of_started hmem
    have hnot : ¬ s.At h .waiting := fun hat => hs.not_waiting_of_started hmem (hwaiting.mp hat)
    rcases hstarted.mp hmem with hat | hat
    · obtain ⟨thread, hrun⟩ := hat
      refine ⟨.running, ⟨thread, hrun⟩, fun p hp => ?_⟩
      cases p with
      | queued => exact absurd hp hqueued
      | waiting => exact absurd hp hnot
      | running => rfl
      | finished => exact absurd hp (hs.notFinished hrun)
    · refine ⟨.finished, hat, fun p hp => ?_⟩
      cases p with
      | queued => exact absurd hp hqueued
      | waiting => exact absurd hp hnot
      | running =>
        obtain ⟨thread, hrun⟩ := hp
        exact absurd hat (hs.notFinished hrun)
      | finished => rfl
  · have hnot : h ∉ s.started := fun hst => hs.not_waiting_of_started hst hmem
    refine ⟨.waiting, hwaiting.mpr hmem, fun p hp => ?_⟩
    cases p with
    | queued => exact absurd hmem (hs.not_waiting_of_queued hp)
    | waiting => rfl
    | running => exact absurd (hstarted.mpr (.inl hp)) hnot
    | finished => exact absurd (hstarted.mpr (.inr hp)) hnot
  · have hnot : h ∉ s.started := fun hst => hs.not_queued_of_started hst hmem
    refine ⟨.queued, hmem, fun p hp => ?_⟩
    cases p with
    | queued => rfl
    | waiting => exact absurd (hwaiting.mp hp) (hs.not_waiting_of_queued hmem)
    | running => exact absurd (hstarted.mpr (.inl hp)) hnot
    | finished => exact absurd (hstarted.mpr (.inr hp)) hnot

/-- The list of a pair is the handler that runs and those that wait. -/
lemma Inv.nodup_availabilityHandlers (hs : s.Inv) (pair : UInt16 × UInt16) :
    (s.availabilityHandlers pair).Nodup := by
  cases hlist : s.availabilityHandlers pair with
  | nil => exact List.nodup_nil
  | cons front rest =>
    have hlane : lane front = some pair := hs.own (hlist ▸ List.mem_cons_self)
    have hwaiting : waitingIn s.availabilityHandlers (some pair) = rest := by simp [waitingIn, hlist]
    have hfront : (s.availabilityHandlers pair).head? = some front := by rw [hlist, List.head?_cons]
    obtain ⟨-, hrunning⟩ := hs.front hfront
    have hnot := hs.not_waiting_of_started ((hs.taken front).mpr (.inl hrunning))
    rw [hlane, hwaiting] at hnot
    have hnodup := hs.nodup_lane (some pair)
    rw [hwaiting] at hnodup
    exact List.nodup_cons.mpr ⟨hnot, (List.nodup_append.mp (List.nodup_append.mp hnodup).2.1).1⟩

/-- What the invariant says of the scheduling. -/
lemma Inv.scheduled (hs : s.Inv) : s.Scheduled where
  exclusive t t' h h' hrun hrun' htype htype' hpair := by
    have hfront := hs.busy hrun htype
    rw [hpair, hs.busy hrun' htype', Option.some.injEq] at hfront
    exact hs.single hrun (hfront ▸ hrun')
  ordered pair := ⟨_, (hs.lanes (some pair)).symm⟩
  place h hh := hs.existsUnique_at hh
  once := by
    refine ⟨nodup_of_lanes fun l => ?_, hs.nodup_availabilityHandlers, hs.single, hs.finishedNodup⟩
    exact (List.nodup_append.mp (List.nodup_append.mp (hs.nodup_lane l)).2.1).2.1
  own h pair hmem := by
    have hlane := hs.own hmem
    rw [lane] at hlane
    split at hlane
    · exact Option.some.inj hlane
    · exact Option.some.inj hlane
    · cases hlane
  awaited pair htail := by
    cases hlist : s.availabilityHandlers pair with
    | nil =>
      rw [hlist] at htail
      exact absurd rfl htail
    | cons front rest =>
      have hfront : (s.availabilityHandlers pair).head? = some front := by rw [hlist, List.head?_cons]
      obtain ⟨htype, thread, hrun⟩ := hs.front hfront
      exact ⟨thread, front, rfl, hrun, htype⟩
  started := nodup_of_lanes fun l => (List.nodup_append.mp (hs.nodup_lane l)).1

/-- **Handlers are scheduled as they should**, in every interleaving of pushes with the steps of any
number of dispatcher threads.

**Proof sketch.** The handlers of a lane are, in the order in which they were pushed, those that have
been started, those that wait and those that are queued. Every step keeps this, because a handler is
taken only if nothing of its lane waits, and those that wait go back to the front. A list in
`availability_handlers_` begins with the handler of an availability that runs. -/
theorem scheduled_run (actions : List Action) : (Runs.run Dispatch.step init actions).Scheduled := by
  refine Inv.scheduled ?_
  exact Runs.inv_run (P := fun _ => True) (fun hs _ => hs.step _) inv_init fun _ _ => trivial

end Dispatch

end Vsomeip
