import Mathlib.Data.List.Nodup
import Mathlib.Tactic.Tauto
import Vsomeip.Lib.Runs

set_option relaxedAutoImplicit false
set_option autoImplicit false

/-!
# The phases of an offer

A service that is offered is first collected (`collected_offers_`). When the debounce timer expires,
the collected offers are sent and bound to a new timer, at whose expiries they are repeated; after
the last repetition they enter the main phase, in which all offers are sent cyclically. In diagnosis
mode only services that do not use SOME/IP are offered.

An offered `serviceinfo` should be in one phase at a time, the debounce timer should move all
collected offers, or in diagnosis mode those without SOME/IP, and StopOffer should be sent for what
was offered. This fails in diagnosis mode if a service has several collected instances: the whole
service is moved for each instance without SOME/IP, with its other instances, and for a second one
its entry is erased twice. It also fails if a service is offered again while it is in a later phase,
and if it is stopped again after its offer was stopped in the main phase, since the flag is not reset.

The nested maps of the source are lists of `serviceinfo`s, which are made for one service instance
and passed together with it. Of the functions, the messages are left out except for the offers in
them. The service discovery is not suspended and the runtime is alive.

## Main definitions

* `Vsomeip.Sd.OfferPhase` — the containers, with what is offered and what was announced.
* `Vsomeip.Sd.OfferPhase.offerService`, `stopOfferService`, `onOfferDebounceTimerExpired`,
  `onRepetitionPhaseTimerExpired` — the functions of the source.
* `Vsomeip.Sd.OfferPhase.Phased` — what a step should do.
* `Vsomeip.Sd.OfferPhase.Orderly` — the condition on a step.

## Main results

* `Vsomeip.Sd.OfferPhase.phased_along_iff` — all steps of a run do what they should exactly if all
  of them meet the condition.
-/

namespace Vsomeip.Sd

/-- A `serviceinfo` of a service instance. The serial number tells apart those that were made for the
same one. -/
structure ServiceInfo where
  service : UInt16
  inst : UInt16
  serial : ℕ
deriving DecidableEq

/-- The configuration: `is_someip`, which services have an endpoint, and `repetitions_max_`. -/
structure PhaseConfig where
  isSomeip : UInt16 → UInt16 → Bool
  hasEndpoint : ServiceInfo → Bool
  repetitionsMax : UInt8

/-- A timer of `repetition_phase_timers_` with its offers, and the number of repetitions with which
its handler is called. -/
structure RepetitionTimer where
  id : ℕ
  repetition : UInt8
  offers : List ServiceInfo

/-- The containers and the flags of the `serviceinfo`s. What is offered, and for what an Offer was
sent since it is offered, are kept beside them. -/
structure OfferPhase where
  collected : List ServiceInfo
  timers : List RepetitionTimer
  nextTimer : ℕ
  isInMainphase : ServiceInfo → Bool
  isDiagnosis : Bool
  offered : ServiceInfo → Bool
  announced : ServiceInfo → Bool

namespace OfferPhase

/-- Nothing is offered. -/
def init : OfferPhase where
  collected := []
  timers := []
  nextTimer := 0
  isInMainphase := fun _ => false
  isDiagnosis := false
  offered := fun _ => false
  announced := fun _ => false

/-- `offer_service`. An instance that is collected is not collected again. -/
def offerService (s : OfferPhase) (info : ServiceInfo) : OfferPhase :=
  { s with
    collected :=
      if s.collected.any fun x => x.service = info.service ∧ x.inst = info.inst then s.collected
      else s.collected ++ [info]
    offered := Function.update s.offered info true }

/-- `insert_offer_entries` without regard to the phase: the offers that are sent. -/
def sentOffers (cfg : PhaseConfig) (s : OfferPhase) (offers : List ServiceInfo) : List ServiceInfo :=
  offers.filter fun x =>
    (¬ s.isDiagnosis ∨ ¬ cfg.isSomeip x.service x.inst) ∧ cfg.hasEndpoint x = true

/-- Offers are sent. -/
def announce (cfg : PhaseConfig) (s : OfferPhase) (offers : List ServiceInfo) : OfferPhase :=
  { s with announced := fun x => s.announced x || x ∈ s.sentOffers cfg offers }

/-- The services for which `on_offer_debounce_timer_expired` collects an iterator in diagnosis mode,
one for each instance without SOME/IP. -/
def nonSomeipServices (cfg : PhaseConfig) (s : OfferPhase) : List UInt16 :=
  (s.collected.filter fun x => ¬ cfg.isSomeip x.service x.inst).map ServiceInfo.service

/-- The offers that enter the repetition phase, and those that stay. An iterator that is erased twice
is undefined behaviour. -/
def repetitionPhaseOffers (cfg : PhaseConfig) (s : OfferPhase) :
    Option (List ServiceInfo × List ServiceInfo) :=
  if s.isDiagnosis then
    let services := s.nonSomeipServices cfg
    if services.Nodup then
      some (s.collected.filter fun x => x.service ∈ services,
        s.collected.filter fun x => x.service ∉ services)
    else none
  else some (s.collected, [])

/-- `on_offer_debounce_timer_expired`. -/
def onOfferDebounceTimerExpired (cfg : PhaseConfig) (s : OfferPhase) : Option OfferPhase :=
  if s.collected.length = 0 then some s
  else
    (s.repetitionPhaseOffers cfg).map fun (offers, rest) =>
      { s.announce cfg offers with
        collected := rest
        timers := s.timers ++ [⟨s.nextTimer, if cfg.repetitionsMax ≠ 0 then 1 else 0, offers⟩]
        nextTimer := s.nextTimer + 1 }

/-- `move_offers_into_main_phase`. -/
def moveOffersIntoMainPhase (s : OfferPhase) (t : RepetitionTimer) : OfferPhase :=
  { s with
    isInMainphase := fun x => s.isInMainphase x || x ∈ t.offers
    timers := s.timers.filter fun t' => t'.id ≠ t.id }

/-- A timer is started again. -/
def restart (s : OfferPhase) (t : RepetitionTimer) (repetition : UInt8) : OfferPhase :=
  { s with timers := s.timers.map fun t' =>
      if t'.id = t.id then { t' with repetition := repetition } else t' }

/-- `on_repetition_phase_timer_expired`. The last argument is
`last_offer_shorter_half_offer_delay_ago`. -/
def onRepetitionPhaseTimerExpired (cfg : PhaseConfig) (s : OfferPhase) (id : ℕ)
    (isShorterHalf : Bool) : OfferPhase :=
  match s.timers.find? (·.id = id) with
  | none => s
  | some t =>
    if t.repetition = 0 then s.moveOffersIntoMainPhase t
    else
      let s := s.announce cfg t.offers
      if t.repetition ≤ cfg.repetitionsMax then s.restart t (t.repetition + 1)
      else if isShorterHalf then s.moveOffersIntoMainPhase t
      else s.restart t 0

/-- Whether `stop_offer_service` sends a StopOffer. -/
def sendsStopOffer (cfg : PhaseConfig) (s : OfferPhase) (info : ServiceInfo) : Bool :=
  (s.isInMainphase info || s.timers.any fun t => info ∈ t.offers) && cfg.hasEndpoint info

/-- `stop_offer_service`. A timer without offers is erased. -/
def stopOfferService (s : OfferPhase) (info : ServiceInfo) : OfferPhase :=
  { s with
    collected := s.collected.filter (· ≠ info)
    timers := (s.timers.map fun t => { t with offers := t.offers.filter (· ≠ info) }).filter
      fun t => t.offers.length ≠ 0
    offered := Function.update s.offered info false
    announced := Function.update s.announced info false }

/-- `set_diagnosis_mode`. -/
def setDiagnosisMode (s : OfferPhase) (activate : Bool) : OfferPhase :=
  { s with isDiagnosis := activate }

end OfferPhase

/-- The calls and the expiries of timers. -/
inductive OfferAction
  | offerService (info : ServiceInfo)
  | stopOfferService (info : ServiceInfo)
  | debounceExpired
  | repetitionExpired (id : ℕ) (isShorterHalf : Bool)
  | setDiagnosisMode (activate : Bool)

namespace OfferPhase

/-- The phases as a state machine. -/
def step (cfg : PhaseConfig) (s : OfferPhase) : OfferAction → OfferPhase
  | .offerService info => s.offerService info
  | .stopOfferService info => s.stopOfferService info
  | .debounceExpired => (s.onOfferDebounceTimerExpired cfg).getD s
  | .repetitionExpired id isShorterHalf => s.onRepetitionPhaseTimerExpired cfg id isShorterHalf
  | .setDiagnosisMode activate => s.setDiagnosisMode activate

/-- A `serviceinfo` is among the offers of a timer. -/
def InRepetition (s : OfferPhase) (info : ServiceInfo) : Prop :=
  ∃ t ∈ s.timers, info ∈ t.offers

/-- A `serviceinfo` is in the main phase: it is offered cyclically. -/
def InMain (s : OfferPhase) (info : ServiceInfo) : Prop :=
  s.offered info = true ∧ s.isInMainphase info = true

/-- Every `serviceinfo` is in at most one phase, and among the offers of one timer. -/
structure OnePhase (s : OfferPhase) : Prop where
  collected_repetition : ∀ {x}, x ∈ s.collected → ¬ s.InRepetition x
  collected_main : ∀ {x}, x ∈ s.collected → ¬ s.InMain x
  repetition_main : ∀ {x}, s.InRepetition x → ¬ s.InMain x
  one_timer : ∀ {x t t'}, t ∈ s.timers → t' ∈ s.timers → x ∈ t.offers → x ∈ t'.offers → t.id = t'.id

/-- The collected offers that the debounce timer should move: all, or in diagnosis mode those without
SOME/IP. -/
def Due (cfg : PhaseConfig) (s : OfferPhase) (info : ServiceInfo) : Prop :=
  info ∈ s.collected ∧ (s.isDiagnosis = true → cfg.isSomeip info.service info.inst = false)

/-- The debounce timer moves the offers that are due into one new timer, and keeps the others. -/
def Moves (cfg : PhaseConfig) (s s' : OfferPhase) : Prop :=
  s.collected ≠ [] → ∃ t, s'.timers = s.timers ++ [t] ∧ (∀ x, x ∈ t.offers ↔ s.Due cfg x) ∧
    ∀ x, x ∈ s'.collected ↔ x ∈ s.collected ∧ ¬ s.Due cfg x

/-- What a step should do. Afterwards every `serviceinfo` is in at most one phase. The debounce timer
moves what is due, and StopOffer is sent for what was announced, which then is in no phase. -/
def Phased (cfg : PhaseConfig) (s : OfferPhase) (a : OfferAction) : Prop :=
  (s.step cfg a).OnePhase ∧
  match a with
  | .debounceExpired => ∃ s', s.onOfferDebounceTimerExpired cfg = some s' ∧ s.Moves cfg s'
  | .stopOfferService info =>
    (s.sendsStopOffer cfg info = true ↔ s.announced info = true) ∧
      info ∉ (s.step cfg a).collected ∧ ¬ (s.step cfg a).InRepetition info ∧
      ¬ (s.step cfg a).InMain info
  | _ => True

/-- The condition on a step:
* An instance is offered that is collected, or a `serviceinfo` that is in no later phase and whose
  flag is not left from an earlier offer.
* In diagnosis mode, a service with a collected instance without SOME/IP has no other collected
  instance when the debounce timer expires.
* If the flag of a `serviceinfo` that is stopped is set, it was announced since it is offered. -/
def Orderly (cfg : PhaseConfig) (s : OfferPhase) : OfferAction → Prop
  | .offerService info =>
    (∃ x ∈ s.collected, x.service = info.service ∧ x.inst = info.inst) ∨
      (¬ s.InRepetition info ∧ s.isInMainphase info = false)
  | .debounceExpired =>
    s.isDiagnosis = true → ∀ x ∈ s.collected, ∀ y ∈ s.collected, x.service = y.service →
      cfg.isSomeip x.service x.inst = false → x = y
  | .stopOfferService info =>
    s.isInMainphase info = true → cfg.hasEndpoint info = true → s.announced info = true
  | _ => True

/-! ## The invariant -/

/-- The invariant. Each instance is collected once, what is in a container is offered, and an Offer
was sent for what is in the repetition phase and not for what has not reached it. -/
structure Inv (cfg : PhaseConfig) (s : OfferPhase) : Prop where
  onePhase : s.OnePhase
  nodup : s.collected.Nodup
  collected_offered : ∀ {x}, x ∈ s.collected → s.offered x = true
  repetition_offered : ∀ {x}, s.InRepetition x → s.offered x = true
  id_lt : ∀ {t}, t ∈ s.timers → t.id < s.nextTimer
  id_inj : ∀ {t t'}, t ∈ s.timers → t' ∈ s.timers → t.id = t'.id → t = t'
  hasEndpoint : ∀ {x}, s.announced x = true → cfg.hasEndpoint x = true
  announced : ∀ {x}, s.InRepetition x → cfg.hasEndpoint x = true → s.announced x = true
  not_announced : ∀ {x}, ¬ s.InRepetition x → s.isInMainphase x = false → s.announced x = false

variable {cfg : PhaseConfig} {s s' : OfferPhase} {info : ServiceInfo}

/-- The invariant holds at the start. -/
lemma inv_init : Inv cfg init where
  onePhase :=
    { collected_repetition := fun h => absurd h List.not_mem_nil
      collected_main := fun h => absurd h List.not_mem_nil
      repetition_main := fun ⟨_, h, _⟩ => absurd h List.not_mem_nil
      one_timer := fun h => absurd h List.not_mem_nil }
  nodup := List.nodup_nil
  collected_offered h := absurd h List.not_mem_nil
  repetition_offered := fun ⟨_, h, _⟩ => absurd h List.not_mem_nil
  id_lt h := absurd h List.not_mem_nil
  id_inj h := absurd h List.not_mem_nil
  hasEndpoint h := by cases h
  announced := fun ⟨_, h, _⟩ => absurd h List.not_mem_nil
  not_announced _ _ := rfl

/-- What is in an early phase has not reached the main phase. -/
lemma Inv.isInMainphase_eq_false (hs : Inv cfg s)
    (h : info ∈ s.collected ∨ s.InRepetition info) : s.isInMainphase info = false := by
  by_contra hflag
  rw [Bool.not_eq_false] at hflag
  obtain h | h := h
  · exact hs.onePhase.collected_main h ⟨hs.collected_offered h, hflag⟩
  · exact hs.onePhase.repetition_main h ⟨hs.repetition_offered h, hflag⟩

/-! ## Offers -/

/-- What is offered after an offer. -/
lemma offered_offerService (x : ServiceInfo) :
    (s.offerService info).offered x = if x = info then true else s.offered x := by
  rw [offerService]
  exact Function.update_apply s.offered info true x

/-- An instance that is collected is offered again. -/
lemma Inv.step_offerService_of_collected (hs : Inv cfg s)
    (h : ∃ x ∈ s.collected, x.service = info.service ∧ x.inst = info.inst) :
    Inv cfg (s.offerService info) := by
  have hcollected : (s.offerService info).collected = s.collected := by
    obtain ⟨x, hx, hkey⟩ := h
    rw [offerService]
    exact if_pos (List.any_eq_true.mpr ⟨x, hx, decide_eq_true hkey⟩)
  have hoffered : ∀ {x}, s.offered x = true → (s.offerService info).offered x = true := by
    intro x hx
    rw [offered_offerService, hx, ite_self]
  have hmain : ∀ {x}, (x ∈ s.collected ∨ s.InRepetition x) → ¬ (s.offerService info).InMain x := by
    intro x hx hmain
    exact absurd (hs.isInMainphase_eq_false hx) (Bool.not_eq_false _ ▸ hmain.2)
  refine ⟨⟨fun {x} hx => ?_, fun {x} hx => ?_, fun {x} hx => ?_, hs.onePhase.one_timer⟩, ?_,
    fun {x} hx => ?_, fun {x} hx => hoffered (hs.repetition_offered hx), hs.id_lt, hs.id_inj,
    hs.hasEndpoint, hs.announced, hs.not_announced⟩
  · rw [hcollected] at hx
    exact hs.onePhase.collected_repetition hx
  · rw [hcollected] at hx
    exact hmain (.inl hx)
  · exact hmain (.inr hx)
  · rw [hcollected]
    exact hs.nodup
  · rw [hcollected] at hx
    exact hoffered (hs.collected_offered hx)

/-- A new offer is collected. -/
lemma collected_offerService
    (h : ¬ ∃ x ∈ s.collected, x.service = info.service ∧ x.inst = info.inst) :
    (s.offerService info).collected = s.collected ++ [info] := by
  rw [offerService]
  refine if_neg fun hany => h ?_
  obtain ⟨x, hx, hkey⟩ := List.any_eq_true.mp hany
  exact ⟨x, hx, of_decide_eq_true hkey⟩

/-- An instance that is not collected is offered. -/
lemma Inv.step_offerService_of_new (hs : Inv cfg s)
    (h : ¬ ∃ x ∈ s.collected, x.service = info.service ∧ x.inst = info.inst)
    (hnot : ¬ s.InRepetition info) (hflag : s.isInMainphase info = false) :
    Inv cfg (s.offerService info) := by
  have hcollected := collected_offerService h
  have hmem : ∀ {x}, x ∈ (s.offerService info).collected → x ∈ s.collected ∨ x = info := by
    intro x hx
    rwa [hcollected, List.mem_append, List.mem_singleton] at hx
  have hoffered : ∀ {x}, s.offered x = true → (s.offerService info).offered x = true := by
    intro x hx
    rw [offered_offerService, hx, ite_self]
  have hmain : ∀ {x}, s.isInMainphase x = false → ¬ (s.offerService info).InMain x :=
    fun hx hmain => absurd hx (Bool.not_eq_false _ ▸ hmain.2)
  refine ⟨⟨fun {x} hx => ?_, fun {x} hx => ?_, fun {x} hx => ?_, hs.onePhase.one_timer⟩, ?_,
    fun {x} hx => ?_, fun {x} hx => hoffered (hs.repetition_offered hx), hs.id_lt, hs.id_inj,
    hs.hasEndpoint, hs.announced, hs.not_announced⟩
  · obtain hx | rfl := hmem hx
    · exact hs.onePhase.collected_repetition hx
    · exact hnot
  · obtain hx | rfl := hmem hx
    · exact hmain (hs.isInMainphase_eq_false (.inl hx))
    · exact hmain hflag
  · exact hmain (hs.isInMainphase_eq_false (.inr hx))
  · rw [hcollected]
    refine List.nodup_append'.mpr ⟨hs.nodup, List.nodup_singleton info, ?_⟩
    intro x hx hx'
    obtain rfl := List.mem_singleton.mp hx'
    exact h ⟨x, hx, rfl, rfl⟩
  · obtain hx | rfl := hmem hx
    · exact hoffered (hs.collected_offered hx)
    · rw [offered_offerService, if_pos rfl]

/-- An offer is orderly if the service is in one phase after it. -/
lemma orderly_of_onePhase_offerService (h : (s.offerService info).OnePhase) :
    s.Orderly cfg (.offerService info) := by
  by_cases hkey : ∃ x ∈ s.collected, x.service = info.service ∧ x.inst = info.inst
  · exact .inl hkey
  · have hmem : info ∈ (s.offerService info).collected := by
      rw [collected_offerService hkey]
      exact List.mem_append_right _ (List.mem_singleton_self info)
    refine .inr ⟨h.collected_repetition hmem, ?_⟩
    by_contra hflag
    refine h.collected_main hmem ⟨?_, Bool.not_eq_false _ ▸ hflag⟩
    rw [offered_offerService, if_pos rfl]

/-! ## Stopping -/

/-- The timers after a stop have the offers that are left. -/
lemma mem_timers_stopOfferService {t : RepetitionTimer} (ht : t ∈ (s.stopOfferService info).timers) :
    ∃ t₀ ∈ s.timers, t = { t₀ with offers := t₀.offers.filter (· ≠ info) } := by
  obtain ⟨ht, -⟩ := List.mem_filter.mp ht
  obtain ⟨t₀, ht₀, rfl⟩ := List.mem_map.mp ht
  exact ⟨t₀, ht₀, rfl⟩

/-- What is in the repetition phase after a stop. -/
lemma inRepetition_stopOfferService {x : ServiceInfo} :
    (s.stopOfferService info).InRepetition x ↔ s.InRepetition x ∧ x ≠ info := by
  constructor
  · rintro ⟨t, ht, hx⟩
    obtain ⟨t₀, ht₀, rfl⟩ := mem_timers_stopOfferService ht
    obtain ⟨hx, hne⟩ := List.mem_filter.mp hx
    exact ⟨⟨t₀, ht₀, hx⟩, of_decide_eq_true hne⟩
  · rintro ⟨⟨t, ht, hx⟩, hne⟩
    have hmem : x ∈ t.offers.filter (· ≠ info) := List.mem_filter.mpr ⟨hx, decide_eq_true hne⟩
    refine ⟨{ t with offers := t.offers.filter (· ≠ info) }, ?_, hmem⟩
    refine List.mem_filter.mpr ⟨List.mem_map.mpr ⟨t, ht, rfl⟩, decide_eq_true ?_⟩
    rw [ne_eq, List.length_eq_zero_iff]
    exact List.ne_nil_of_mem hmem

/-- What is offered after a stop. -/
lemma offered_stopOfferService (x : ServiceInfo) :
    (s.stopOfferService info).offered x = if x = info then false else s.offered x :=
  Function.update_apply s.offered info false x

/-- What is announced after a stop. -/
lemma announced_stopOfferService (x : ServiceInfo) :
    (s.stopOfferService info).announced x = if x = info then false else s.announced x :=
  Function.update_apply s.announced info false x

/-- What is in the main phase after a stop. -/
lemma inMain_stopOfferService {x : ServiceInfo} (h : (s.stopOfferService info).InMain x) :
    s.InMain x ∧ x ≠ info := by
  obtain ⟨hoffered, hflag⟩ := h
  have hne : x ≠ info := by
    rintro rfl
    rw [offered_stopOfferService, if_pos rfl] at hoffered
    cases hoffered
  refine ⟨⟨?_, hflag⟩, hne⟩
  rw [offered_stopOfferService, if_neg hne] at hoffered
  exact hoffered

/-- A stop keeps the invariant. -/
lemma Inv.step_stopOfferService (hs : Inv cfg s) : Inv cfg (s.stopOfferService info) := by
  have hcollected : ∀ {x}, x ∈ (s.stopOfferService info).collected → x ∈ s.collected ∧ x ≠ info := by
    intro x hx
    obtain ⟨hx, hne⟩ := List.mem_filter.mp hx
    exact ⟨hx, of_decide_eq_true hne⟩
  refine ⟨⟨fun {x} hx hr => ?_, fun {x} hx hm => ?_, fun {x} hr hm => ?_,
    fun {x t t'} ht ht' hx hx' => ?_⟩, hs.nodup.filter _, fun {x} hx => ?_, fun {x} hr => ?_,
    fun {t} ht => ?_, fun {t t'} ht ht' hid => ?_, fun {x} hx => ?_, fun {x} hr hep => ?_,
    fun {x} hr hflag => ?_⟩
  · exact hs.onePhase.collected_repetition (hcollected hx).1 (inRepetition_stopOfferService.mp hr).1
  · exact hs.onePhase.collected_main (hcollected hx).1 (inMain_stopOfferService hm).1
  · exact hs.onePhase.repetition_main (inRepetition_stopOfferService.mp hr).1
      (inMain_stopOfferService hm).1
  · obtain ⟨t₀, ht₀, rfl⟩ := mem_timers_stopOfferService ht
    obtain ⟨t₁, ht₁, rfl⟩ := mem_timers_stopOfferService ht'
    have hone : t₀.id = t₁.id := hs.onePhase.one_timer ht₀ ht₁ (List.mem_filter.mp hx).1
      (List.mem_filter.mp hx').1
    exact hone
  · obtain ⟨hx, hne⟩ := hcollected hx
    rw [offered_stopOfferService, if_neg hne]
    exact hs.collected_offered hx
  · obtain ⟨hr, hne⟩ := inRepetition_stopOfferService.mp hr
    rw [offered_stopOfferService, if_neg hne]
    exact hs.repetition_offered hr
  · obtain ⟨t₀, ht₀, rfl⟩ := mem_timers_stopOfferService ht
    have hlt : t₀.id < s.nextTimer := hs.id_lt ht₀
    exact hlt
  · obtain ⟨t₀, ht₀, rfl⟩ := mem_timers_stopOfferService ht
    obtain ⟨t₁, ht₁, rfl⟩ := mem_timers_stopOfferService ht'
    rw [hs.id_inj ht₀ ht₁ hid]
  · by_cases hne : x = info
    · rw [announced_stopOfferService, if_pos hne] at hx
      cases hx
    · rw [announced_stopOfferService, if_neg hne] at hx
      exact hs.hasEndpoint hx
  · obtain ⟨hr, hne⟩ := inRepetition_stopOfferService.mp hr
    rw [announced_stopOfferService, if_neg hne]
    exact hs.announced hr hep
  · by_cases hne : x = info
    · rw [announced_stopOfferService, if_pos hne]
    · rw [announced_stopOfferService, if_neg hne]
      exact hs.not_announced (fun h => hr (inRepetition_stopOfferService.mpr ⟨h, hne⟩)) hflag

/-- StopOffer is sent for what was announced exactly if the flag is not left from an earlier offer. -/
lemma Inv.sendsStopOffer_iff (hs : Inv cfg s) :
    (s.sendsStopOffer cfg info = true ↔ s.announced info = true) ↔
      s.Orderly cfg (.stopOfferService info) := by
  have hsends : s.sendsStopOffer cfg info = true ↔
      (s.isInMainphase info = true ∨ s.InRepetition info) ∧ cfg.hasEndpoint info = true := by
    rw [sendsStopOffer, Bool.and_eq_true, Bool.or_eq_true, List.any_eq_true]
    simp only [decide_eq_true_eq, InRepetition]
  rw [hsends]
  constructor
  · exact fun h hflag hep => h.mp ⟨.inl hflag, hep⟩
  · intro h
    constructor
    · rintro ⟨hflag | hr, hep⟩
      · exact h hflag hep
      · exact hs.announced hr hep
    · intro hann
      refine ⟨?_, hs.hasEndpoint hann⟩
      by_contra hno
      obtain ⟨hflag, hr⟩ := not_or.mp hno
      rw [hs.not_announced hr (Bool.not_eq_true _ ▸ hflag)] at hann
      cases hann

/-- After its offer is stopped, a `serviceinfo` is in no phase. -/
lemma stopOfferService_none : info ∉ (s.stopOfferService info).collected ∧
    ¬ (s.stopOfferService info).InRepetition info ∧ ¬ (s.stopOfferService info).InMain info := by
  refine ⟨fun h => ?_, fun h => (inRepetition_stopOfferService.mp h).2 rfl,
    fun h => (inMain_stopOfferService h).2 rfl⟩
  exact of_decide_eq_true (List.mem_filter.mp h).2 rfl

/-! ## The debounce timer -/

/-- The services that have an instance without SOME/IP. -/
lemma mem_nonSomeipServices {service : UInt16} : service ∈ s.nonSomeipServices cfg ↔
    ∃ x ∈ s.collected, cfg.isSomeip x.service x.inst = false ∧ x.service = service := by
  simp only [nonSomeipServices, List.mem_map, List.mem_filter, decide_eq_true_eq, and_assoc,
    Bool.not_eq_true]

/-- The iterators are distinct and lead to what is due exactly if no service has another instance
beside one without SOME/IP. -/
lemma Inv.nonSomeipServices_iff (hs : Inv cfg s) (hdiag : s.isDiagnosis = true) :
    ((s.nonSomeipServices cfg).Nodup ∧
      ∀ x ∈ s.collected, x.service ∈ s.nonSomeipServices cfg → s.Due cfg x) ↔
    s.Orderly cfg .debounceExpired := by
  constructor
  · rintro ⟨hnodup, hdue⟩ - x hx y hy hxy hsomeip
    have hyService : y.service ∈ s.nonSomeipServices cfg :=
      mem_nonSomeipServices.mpr ⟨x, hx, hsomeip, hxy⟩
    have hySomeip := (hdue y hy hyService).2 hdiag
    -- Both are instances without SOME/IP, and each of them gives an iterator of its own.
    refine List.inj_on_of_nodup_map hnodup ?_ ?_ hxy
    · exact List.mem_filter.mpr ⟨hx, by simp [hsomeip]⟩
    · exact List.mem_filter.mpr ⟨hy, by simp [hySomeip]⟩
  · intro h
    refine ⟨(hs.nodup.filter _).map_on fun x hx y hy hxy => ?_, fun x hx hxs => ⟨hx, fun _ => ?_⟩⟩
    · obtain ⟨hx, hsomeip⟩ := List.mem_filter.mp hx
      exact h hdiag x hx y (List.mem_filter.mp hy).1 hxy (by simpa using hsomeip)
    · obtain ⟨y, hy, hsomeip, hyx⟩ := mem_nonSomeipServices.mp hxs
      obtain rfl := h hdiag y hy x hx hyx hsomeip
      exact hsomeip

/-- What is due is moved, and the rest stays. -/
lemma Inv.repetitionPhaseOffers_of_orderly (hs : Inv cfg s) (h : s.Orderly cfg .debounceExpired) :
    ∃ offers rest, s.repetitionPhaseOffers cfg = some (offers, rest) ∧
      (∀ x, x ∈ offers ↔ s.Due cfg x) ∧ (∀ x, x ∈ rest ↔ x ∈ s.collected ∧ ¬ s.Due cfg x) ∧
      rest.Nodup := by
  cases hdiag : s.isDiagnosis with
  | false =>
    have hdue : ∀ x, s.Due cfg x ↔ x ∈ s.collected := by
      intro x
      rw [Due, hdiag]
      exact and_iff_left fun h => by cases h
    refine ⟨s.collected, [], ?_, fun x => (hdue x).symm, fun x => ?_, List.nodup_nil⟩
    · rw [repetitionPhaseOffers, hdiag]
      rfl
    · rw [hdue]
      simp
  | true =>
    obtain ⟨hnodup, hdue⟩ := (hs.nonSomeipServices_iff hdiag).mpr h
    have hiff : ∀ x ∈ s.collected, x.service ∈ s.nonSomeipServices cfg ↔ s.Due cfg x :=
      fun x hx => ⟨hdue x hx, fun hd => mem_nonSomeipServices.mpr ⟨x, hx, hd.2 hdiag, rfl⟩⟩
    refine ⟨s.collected.filter fun x => x.service ∈ s.nonSomeipServices cfg,
      s.collected.filter fun x => x.service ∉ s.nonSomeipServices cfg, ?_, fun x => ?_, fun x => ?_,
      hs.nodup.filter _⟩
    · rw [repetitionPhaseOffers, hdiag]
      simp only [if_true]
      exact if_pos hnodup
    · rw [List.mem_filter, decide_eq_true_eq]
      exact ⟨fun h => (hiff x h.1).mp h.2, fun h => ⟨h.1, (hiff x h.1).mpr h⟩⟩
    · rw [List.mem_filter, decide_eq_true_eq]
      exact and_congr_right fun hx => not_congr (hiff x hx)

/-- The state after what is due has been moved. -/
def moved (cfg : PhaseConfig) (s : OfferPhase) (offers rest : List ServiceInfo) : OfferPhase :=
  { s.announce cfg offers with
    collected := rest
    timers := s.timers ++ [⟨s.nextTimer, if cfg.repetitionsMax ≠ 0 then 1 else 0, offers⟩]
    nextTimer := s.nextTimer + 1 }

/-- The offers that are sent of some. -/
lemma mem_sentOffers {offers : List ServiceInfo} {x : ServiceInfo} :
    x ∈ s.sentOffers cfg offers ↔ x ∈ offers ∧
      (s.isDiagnosis = true → cfg.isSomeip x.service x.inst = false) ∧ cfg.hasEndpoint x = true := by
  rw [sentOffers, List.mem_filter, decide_eq_true_eq]
  refine and_congr_right fun _ => and_congr_left fun _ => ?_
  rw [imp_iff_not_or, Bool.not_eq_true (cfg.isSomeip x.service x.inst)]

section Moved

variable {offers rest : List ServiceInfo}

/-- What is announced after offers are sent. -/
lemma announced_announce {x : ServiceInfo} : (s.announce cfg offers).announced x = true ↔
    s.announced x = true ∨ x ∈ s.sentOffers cfg offers := by
  rw [announce, Bool.or_eq_true, decide_eq_true_eq]

/-- The timers after collected offers are moved to one. -/
lemma mem_timers_moved {t : RepetitionTimer} (ht : t ∈ (s.moved cfg offers rest).timers) :
    t ∈ s.timers ∨ (t.id = s.nextTimer ∧ t.offers = offers) := by
  obtain ht | ht := List.mem_append.mp ht
  · exact .inl ht
  · obtain rfl := List.mem_singleton.mp ht
    exact .inr ⟨rfl, rfl⟩

/-- What is in the repetition phase after collected offers are moved there. -/
lemma inRepetition_moved {x : ServiceInfo} :
    (s.moved cfg offers rest).InRepetition x ↔ s.InRepetition x ∨ x ∈ offers := by
  constructor
  · rintro ⟨t, ht, hx⟩
    obtain ht | ⟨-, rfl⟩ := mem_timers_moved ht
    · exact .inl ⟨t, ht, hx⟩
    · exact .inr hx
  · rintro (⟨t, ht, hx⟩ | hx)
    · exact ⟨t, List.mem_append_left _ ht, hx⟩
    · exact ⟨_, List.mem_append_right _ (List.mem_singleton_self _), hx⟩

/-- Moving what is due keeps the invariant. -/
lemma Inv.moved (hs : Inv cfg s) (hoffers : ∀ x, x ∈ offers ↔ s.Due cfg x)
    (hrest : ∀ x, x ∈ rest ↔ x ∈ s.collected ∧ ¬ s.Due cfg x) (hnodup : rest.Nodup) :
    Inv cfg (s.moved cfg offers rest) := by
  have hcollected : ∀ {x}, x ∈ offers → x ∈ s.collected := fun hx => ((hoffers _).mp hx).1
  have hmain : ∀ {x}, s.isInMainphase x = false → ¬ (s.moved cfg offers rest).InMain x :=
    fun hx hmain => absurd hx (Bool.not_eq_false _ ▸ hmain.2)
  refine ⟨⟨fun {x} hx hr => ?_, fun {x} hx => ?_, fun {x} hr => ?_,
    fun {x t t'} ht ht' hx hx' => ?_⟩, hnodup, fun {x} hx => ?_, fun {x} hr => ?_, fun {t} ht => ?_,
    fun {t t'} ht ht' hid => ?_, fun {x} hx => ?_, fun {x} hr hep => ?_, fun {x} hr hflag => ?_⟩
  · obtain ⟨hx, hnot⟩ := (hrest x).mp hx
    obtain hr | hx' := inRepetition_moved.mp hr
    · exact hs.onePhase.collected_repetition hx hr
    · exact hnot ((hoffers x).mp hx')
  · exact hmain (hs.isInMainphase_eq_false (.inl ((hrest x).mp hx).1))
  · refine hmain (hs.isInMainphase_eq_false ?_)
    exact (inRepetition_moved.mp hr).symm.imp_left hcollected
  · obtain ht | ⟨hid, ho⟩ := mem_timers_moved ht
    · obtain ht' | ⟨hid', ho'⟩ := mem_timers_moved ht'
      · exact hs.onePhase.one_timer ht ht' hx hx'
      · rw [ho'] at hx'
        exact absurd ⟨t, ht, hx⟩ (hs.onePhase.collected_repetition (hcollected hx'))
    · obtain ht' | ⟨hid', ho'⟩ := mem_timers_moved ht'
      · rw [ho] at hx
        exact absurd ⟨t', ht', hx'⟩ (hs.onePhase.collected_repetition (hcollected hx))
      · rw [hid, hid']
  · exact hs.collected_offered ((hrest x).mp hx).1
  · obtain hr | hx := inRepetition_moved.mp hr
    · exact hs.repetition_offered hr
    · exact hs.collected_offered (hcollected hx)
  · obtain ht | ⟨hid, -⟩ := mem_timers_moved ht
    · exact Nat.lt_succ_of_lt (hs.id_lt ht)
    · rw [hid]
      exact Nat.lt_succ_self _
  · obtain ht | ht := List.mem_append.mp ht
    · obtain ht' | ht' := List.mem_append.mp ht'
      · exact hs.id_inj ht ht' hid
      · obtain rfl := List.mem_singleton.mp ht'
        exact absurd hid (Nat.ne_of_lt (hs.id_lt ht))
    · obtain rfl := List.mem_singleton.mp ht
      obtain ht' | ht' := List.mem_append.mp ht'
      · exact absurd hid.symm (Nat.ne_of_lt (hs.id_lt ht'))
      · exact (List.mem_singleton.mp ht').symm
  · obtain hx | hx := announced_announce.mp hx
    · exact hs.hasEndpoint hx
    · exact (mem_sentOffers.mp hx).2.2
  · refine announced_announce.mpr ?_
    obtain hr | hx := inRepetition_moved.mp hr
    · exact .inl (hs.announced hr hep)
    · exact .inr (mem_sentOffers.mpr ⟨hx, ((hoffers x).mp hx).2, hep⟩)
  · rw [inRepetition_moved, not_or] at hr
    rw [← Bool.not_eq_true]
    intro hann
    obtain hann | hsent := announced_announce.mp hann
    · rw [hs.not_announced hr.1 hflag] at hann
      cases hann
    · exact hr.2 (mem_sentOffers.mp hsent).1

end Moved

/-- What the debounce timer does if something is collected. -/
lemma onOfferDebounceTimerExpired_eq (hne : s.collected ≠ []) :
    s.onOfferDebounceTimerExpired cfg =
      (s.repetitionPhaseOffers cfg).map fun p => s.moved cfg p.1 p.2 := by
  rw [onOfferDebounceTimerExpired, if_neg (mt List.length_eq_zero_iff.mp hne)]
  rfl

/-- An orderly expiry of the debounce timer moves the offers and keeps the invariant. -/
lemma Inv.step_debounceExpired (hs : Inv cfg s) (h : s.Orderly cfg .debounceExpired) :
    ∃ s', s.onOfferDebounceTimerExpired cfg = some s' ∧ s.Moves cfg s' ∧ Inv cfg s' := by
  by_cases hempty : s.collected = []
  · refine ⟨s, ?_, fun hne => absurd hempty hne, hs⟩
    rw [onOfferDebounceTimerExpired, if_pos (List.length_eq_zero_iff.mpr hempty)]
  · obtain ⟨offers, rest, heq, hoffers, hrest, hnodup⟩ := hs.repetitionPhaseOffers_of_orderly h
    refine ⟨s.moved cfg offers rest, ?_, fun _ => ⟨_, rfl, hoffers, hrest⟩,
      hs.moved hoffers hrest hnodup⟩
    rw [onOfferDebounceTimerExpired_eq hempty, heq]
    rfl

/-- An expiry of the debounce timer that moves the offers is orderly. -/
lemma Inv.orderly_of_moves (hs : Inv cfg s)
    (h : ∃ s', s.onOfferDebounceTimerExpired cfg = some s' ∧ s.Moves cfg s') :
    s.Orderly cfg .debounceExpired := by
  obtain ⟨s', heq, hmoves⟩ := h
  by_cases hempty : s.collected = []
  · intro _ x hx
    rw [hempty] at hx
    exact absurd hx List.not_mem_nil
  · cases hdiag : s.isDiagnosis with
    | false => exact fun h => absurd (hdiag.symm.trans h) (by decide)
    | true =>
      refine (hs.nonSomeipServices_iff hdiag).mp ?_
      rw [onOfferDebounceTimerExpired_eq hempty, repetitionPhaseOffers, hdiag] at heq
      simp only [if_true] at heq
      split_ifs at heq with hnodup
      · obtain rfl := Option.some.inj heq
        obtain ⟨t, ht, hoffers, -⟩ := hmoves hempty
        obtain rfl := List.singleton_inj.mp (List.append_cancel_left ht)
        refine ⟨hnodup, fun x hx hxs => (hoffers x).mp ?_⟩
        exact List.mem_filter.mpr ⟨hx, decide_eq_true hxs⟩
      · cases heq

/-! ## The repetition timers -/

/-- Sending the offers of a timer keeps the invariant. -/
lemma Inv.announce (hs : Inv cfg s) {t : RepetitionTimer} (ht : t ∈ s.timers) :
    Inv cfg (s.announce cfg t.offers) := by
  refine ⟨⟨hs.onePhase.collected_repetition, hs.onePhase.collected_main, hs.onePhase.repetition_main,
    hs.onePhase.one_timer⟩, hs.nodup, hs.collected_offered, hs.repetition_offered, hs.id_lt,
    hs.id_inj, fun {x} hx => ?_, fun {x} hr hep => announced_announce.mpr (.inl (hs.announced hr hep)),
    fun {x} hr hflag => ?_⟩
  · obtain hx | hx := announced_announce.mp hx
    · exact hs.hasEndpoint hx
    · exact (mem_sentOffers.mp hx).2.2
  · rw [← Bool.not_eq_true]
    intro hann
    obtain hann | hsent := announced_announce.mp hann
    · rw [hs.not_announced hr hflag] at hann
      cases hann
    · exact hr ⟨t, ht, (mem_sentOffers.mp hsent).1⟩

/-- The timers after one is started again. -/
lemma mem_timers_restart {t t' : RepetitionTimer} {repetition : UInt8}
    (ht : t' ∈ (s.restart t repetition).timers) :
    ∃ t₀ ∈ s.timers, t'.id = t₀.id ∧ t'.offers = t₀.offers ∧
      t' = if t₀.id = t.id then { t₀ with repetition := repetition } else t₀ := by
  obtain ⟨t₀, ht₀, rfl⟩ := List.mem_map.mp ht
  refine ⟨t₀, ht₀, ?_, ?_, rfl⟩ <;> split_ifs <;> rfl

/-- Starting a timer again changes no phase. -/
lemma inRepetition_restart {t : RepetitionTimer} {repetition : UInt8} {x : ServiceInfo} :
    (s.restart t repetition).InRepetition x ↔ s.InRepetition x := by
  constructor
  · rintro ⟨t', ht', hx⟩
    obtain ⟨t₀, ht₀, -, hoffers, -⟩ := mem_timers_restart ht'
    rw [hoffers] at hx
    exact ⟨t₀, ht₀, hx⟩
  · rintro ⟨t₀, ht₀, hx⟩
    refine ⟨_, List.mem_map.mpr ⟨t₀, ht₀, rfl⟩, ?_⟩
    split_ifs <;> exact hx

/-- Starting a timer again keeps the invariant. -/
lemma Inv.restart (hs : Inv cfg s) (t : RepetitionTimer) (repetition : UInt8) :
    Inv cfg (s.restart t repetition) := by
  refine ⟨⟨fun {x} hx hr => ?_, hs.onePhase.collected_main, fun {x} hr => ?_,
    fun {x t₁ t₂} ht₁ ht₂ hx hx' => ?_⟩, hs.nodup, hs.collected_offered, fun {x} hr => ?_,
    fun {t'} ht' => ?_, fun {t₁ t₂} ht₁ ht₂ hid => ?_, hs.hasEndpoint, fun {x} hr => ?_,
    fun {x} hr => ?_⟩
  · exact hs.onePhase.collected_repetition hx (inRepetition_restart.mp hr)
  · exact hs.onePhase.repetition_main (inRepetition_restart.mp hr)
  · obtain ⟨u, hu, hid, ho, -⟩ := mem_timers_restart ht₁
    obtain ⟨v, hv, hid', ho', -⟩ := mem_timers_restart ht₂
    rw [ho] at hx
    rw [ho'] at hx'
    rw [hid, hid']
    exact hs.onePhase.one_timer hu hv hx hx'
  · exact hs.repetition_offered (inRepetition_restart.mp hr)
  · obtain ⟨u, hu, hid, -⟩ := mem_timers_restart ht'
    rw [hid]
    exact hs.id_lt hu
  · obtain ⟨u, hu, hu', -, heq⟩ := mem_timers_restart ht₁
    obtain ⟨v, hv, hv', -, heq'⟩ := mem_timers_restart ht₂
    rw [hu', hv'] at hid
    rw [heq, heq', hs.id_inj hu hv hid]
  · exact hs.announced (inRepetition_restart.mp hr)
  · exact hs.not_announced fun h => hr (inRepetition_restart.mpr h)

/-- The offers of a timer leave the repetition phase for the main phase. -/
lemma Inv.moveOffersIntoMainPhase (hs : Inv cfg s) {t : RepetitionTimer} (ht : t ∈ s.timers) :
    Inv cfg (s.moveOffersIntoMainPhase t) := by
  have htimers : ∀ {t'}, t' ∈ (s.moveOffersIntoMainPhase t).timers → t' ∈ s.timers ∧ t'.id ≠ t.id := by
    intro t' ht'
    obtain ⟨ht', hid⟩ := List.mem_filter.mp ht'
    exact ⟨ht', of_decide_eq_true hid⟩
  have hrepetition : ∀ {x}, (s.moveOffersIntoMainPhase t).InRepetition x →
      s.InRepetition x ∧ x ∉ t.offers := by
    rintro x ⟨t', ht', hx⟩
    obtain ⟨ht', hid⟩ := htimers ht'
    exact ⟨⟨t', ht', hx⟩, fun hxt => hid (hs.onePhase.one_timer ht' ht hx hxt)⟩
  have hflag : ∀ {x}, (s.moveOffersIntoMainPhase t).isInMainphase x = true ↔
      s.isInMainphase x = true ∨ x ∈ t.offers := by
    intro x
    rw [OfferPhase.moveOffersIntoMainPhase, Bool.or_eq_true, decide_eq_true_eq]
  refine ⟨⟨fun {x} hx hr => ?_, fun {x} hx hm => ?_, fun {x} hr hm => ?_,
    fun {x t₁ t₂} ht₁ ht₂ => ?_⟩, hs.nodup, hs.collected_offered, fun {x} hr => ?_,
    fun {t'} ht' => ?_, fun {t₁ t₂} ht₁ ht₂ => ?_, hs.hasEndpoint, fun {x} hr => ?_,
    fun {x} hr hno => ?_⟩
  · exact hs.onePhase.collected_repetition hx (hrepetition hr).1
  · obtain hold | hxt := hflag.mp hm.2
    · exact hs.onePhase.collected_main hx ⟨hm.1, hold⟩
    · exact hs.onePhase.collected_repetition hx ⟨t, ht, hxt⟩
  · obtain ⟨hr, hnot⟩ := hrepetition hr
    obtain hold | hxt := hflag.mp hm.2
    · exact hs.onePhase.repetition_main hr ⟨hm.1, hold⟩
    · exact hnot hxt
  · exact hs.onePhase.one_timer (htimers ht₁).1 (htimers ht₂).1
  · exact hs.repetition_offered (hrepetition hr).1
  · exact hs.id_lt (htimers ht').1
  · exact hs.id_inj (htimers ht₁).1 (htimers ht₂).1
  · exact hs.announced (hrepetition hr).1
  · have hnot : ¬ (s.isInMainphase x = true ∨ x ∈ t.offers) := by
      rw [← hflag, hno]
      decide
    obtain ⟨hno, hxt⟩ := not_or.mp hnot
    refine hs.not_announced ?_ (Bool.not_eq_true _ ▸ hno)
    rintro ⟨t', ht', hx⟩
    by_cases hid : t'.id = t.id
    · rw [hs.id_inj ht' ht hid] at hx
      exact hxt hx
    · exact hr ⟨t', List.mem_filter.mpr ⟨ht', decide_eq_true hid⟩, hx⟩

/-- An expiry of a repetition timer keeps the invariant. -/
lemma Inv.step_repetitionExpired (hs : Inv cfg s) (id : ℕ) (isShorterHalf : Bool) :
    Inv cfg (s.onRepetitionPhaseTimerExpired cfg id isShorterHalf) := by
  unfold onRepetitionPhaseTimerExpired
  cases hfind : s.timers.find? (·.id = id) with
  | none => exact hs
  | some t =>
    have ht : t ∈ s.timers := List.mem_of_find?_eq_some hfind
    have hann := hs.announce ht
    dsimp only
    split_ifs
    · exact hs.moveOffersIntoMainPhase ht
    · exact hann.restart t _
    · exact hann.moveOffersIntoMainPhase ht
    · exact hann.restart t _

/-! ## Runs -/

/-- An orderly step keeps the invariant and the phases. -/
lemma Inv.step (hs : Inv cfg s) {a : OfferAction} (h : s.Orderly cfg a) :
    Inv cfg (s.step cfg a) ∧ s.Phased cfg a := by
  cases a with
  | offerService info =>
    have hstep : Inv cfg (s.offerService info) := by
      by_cases hkey : ∃ x ∈ s.collected, x.service = info.service ∧ x.inst = info.inst
      · exact hs.step_offerService_of_collected hkey
      · obtain ⟨hnot, hflag⟩ := h.resolve_left hkey
        exact hs.step_offerService_of_new hkey hnot hflag
    exact ⟨hstep, hstep.onePhase, trivial⟩
  | stopOfferService info =>
    have hstep := @Inv.step_stopOfferService cfg s info hs
    exact ⟨hstep, hstep.onePhase, hs.sendsStopOffer_iff.mpr h, stopOfferService_none⟩
  | debounceExpired =>
    obtain ⟨s', heq, hmoves, hstep⟩ := hs.step_debounceExpired h
    have hs' : s.step cfg .debounceExpired = s' := by
      rw [OfferPhase.step, heq]
      rfl
    rw [Phased, hs']
    exact ⟨hstep, hstep.onePhase, s', heq, hmoves⟩
  | repetitionExpired id isShorterHalf =>
    have hstep := hs.step_repetitionExpired id isShorterHalf
    exact ⟨hstep, hstep.onePhase, trivial⟩
  | setDiagnosisMode activate =>
    have hstep : Inv cfg (s.setDiagnosisMode activate) :=
      ⟨⟨hs.onePhase.collected_repetition, hs.onePhase.collected_main, hs.onePhase.repetition_main,
        hs.onePhase.one_timer⟩, hs.nodup, hs.collected_offered, hs.repetition_offered, hs.id_lt,
        hs.id_inj, hs.hasEndpoint, hs.announced, hs.not_announced⟩
    exact ⟨hstep, hstep.onePhase, trivial⟩

/-- Along every run of offers, stops, expiries of timers and switches of the mode, all steps do what
they should if and only if all of them meet the condition. -/
theorem phased_along_iff (cfg : PhaseConfig) (as : List OfferAction) :
    Runs.Along (step cfg) (Phased cfg) init as ↔ Runs.Along (step cfg) (Orderly cfg) init as := by
  refine @Runs.along_iff _ _ (step cfg) (Inv cfg) (fun _ _ => True) (Orderly cfg) (Phased cfg)
    (fun {s a} hs _ hgood => hs.step hgood) (fun {s a} hs _ hbad h => hbad ?_) as _ inv_init
    (Runs.along_of_forall fun _ _ => trivial)
  cases a with
  | offerService info => exact orderly_of_onePhase_offerService h.1
  | stopOfferService info => exact hs.sendsStopOffer_iff.mp h.2.1
  | debounceExpired => exact hs.orderly_of_moves h.2
  | repetitionExpired id isShorterHalf => trivial
  | setDiagnosisMode activate => trivial

/-- Instances with odd numbers use SOME/IP. -/
def exampleConfig : PhaseConfig := ⟨fun _ inst => inst % 2 = 1, fun _ => true, 3⟩

/-- In diagnosis mode two instances of a service are offered, one with SOME/IP and one without. When
the debounce timer expires, both of them are moved. -/
theorem not_phased_diagnosis :
    ¬ ∀ (cfg : PhaseConfig) (as : List OfferAction),
      Runs.Along (step cfg) (Phased cfg) init as := by
  intro h
  obtain ⟨-, -, -, hlast, -⟩ := h exampleConfig [.setDiagnosisMode true,
    .offerService ⟨0x1234, 1, 0⟩, .offerService ⟨0x1234, 2, 0⟩, .debounceExpired]
  obtain ⟨s', heq, hmoves⟩ := hlast.2
  obtain rfl := Option.some.inj heq
  obtain ⟨t, ht, hoffers, -⟩ := hmoves (by decide)
  obtain rfl := List.singleton_inj.mp (List.append_cancel_left ht)
  exact absurd (((hoffers ⟨0x1234, 1, 0⟩).mp (by decide)).2 rfl) (by decide)

end OfferPhase

end Vsomeip.Sd
