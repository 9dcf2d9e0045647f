import Mathlib.Logic.Relation
import Vsomeip.Utility.ClientIdUnique

set_option relaxedAutoImplicit false
set_option autoImplicit false

/-!
# A process that dies with the table

The table of client identifiers is changed in place, one memory access after another, and a process
can die between any two of them. The mutex is robust: the next process that takes it is told so and
runs `check_client_id_consistency`, which looks for the first entry that is the same as the one before
it, the trace that an interrupted removal leaves.

A process that has only just mapped the shared memory runs the check before it has set
`used_client_ids__`, so that it reads through a null pointer as soon as the table has two entries.

## Main definitions

* `Vsomeip.MemoryWrite` — one write to the shared memory.
* `Vsomeip.ClientIdTable.writes` — the writes of a request or a release, in their order.
* `Vsomeip.ClientIdTable.checkedBy` — the check, run by a process that has its pointer or has not.
* `Vsomeip.ClientIdTable.Torn` — a removal that has been interrupted.
* `Vsomeip.ClientIdTable.Restored` — what the check has to leave behind.

## Main results

* `Vsomeip.ClientIdTable.run_writes` — all writes together are the operation.
* `Vsomeip.ClientIdTable.Torn.used_check` — the check completes an interrupted removal.
* `Vsomeip.ClientIdTable.restored_iff` — the table is restored exactly if the process that runs the
  check has its pointer, or there is nothing to read.
-/

namespace Vsomeip

/-- A write to `used_client_ids__`, or to one of `max_used_client_ids_index_`,
`max_assigned_client_id_without_diagnosis_`, `routing_manager_host_` and `pid_`. -/
inductive MemoryWrite
  | usedClientId (i : ℕ) (client : UInt16)
  | maxUsedClientIdsIndex (n : ℕ)
  | maxAssigned (client : UInt16)
  | routingManagerHost (client : UInt16)
  | pid (pid : ℕ)

namespace ClientIdTable

/-! ## The writes of the operations -/

/-- The memory after a write. -/
def write (t : ClientIdTable) : MemoryWrite → ClientIdTable
  | .usedClientId i client => { t with usedClientIds := Function.update t.usedClientIds i client }
  | .maxUsedClientIdsIndex n => { t with maxUsedClientIdsIndex := n }
  | .maxAssigned client => { t with maxAssignedClientIdWithoutDiagnosis := client }
  | .routingManagerHost client => { t with routingManagerHost := client }
  | .pid pid => { t with pid := pid }

/-- The writes of `shiftLoop`. -/
def shiftWrites : ℕ → ℕ → (ℕ → UInt16) → List MemoryWrite
  | 0, _, _ => []
  | n + 1, i, memory => .usedClientId i (memory (i + 1)) ::
      shiftWrites n (i + 1) (Function.update memory i (memory (i + 1)))

/-- The writes of `remove`. -/
def removeWrites (t : ClientIdTable) (i : ℕ) : List MemoryWrite :=
  shiftWrites (t.maxUsedClientIdsIndex - 1 - i) i t.usedClientIds ++
    [.maxUsedClientIdsIndex (t.maxUsedClientIdsIndex - 1)]

/-- The writes of `check_client_id_consistency`. -/
def checkWrites (t : ClientIdTable) : List MemoryWrite :=
  match (List.range t.maxUsedClientIdsIndex).find?
      fun i => 1 ≤ i && t.usedClientIds (i - 1) == t.usedClientIds i with
  | some i => t.removeWrites i
  | none => []

/-- The writes of the owner of the mutex before it goes on. -/
def lockWrites (t : ClientIdTable) (env : ClientIdEnv) : List MemoryWrite :=
  if env.ownerDead then t.checkWrites else []

/-- The writes of `release_client_id`. -/
def releaseWrites (t : ClientIdTable) (env : ClientIdEnv) (client : UInt16) : List MemoryWrite :=
  let locked := t.lock env
  t.lockWrites env ++
    match (List.range locked.maxUsedClientIdsIndex).find?
      fun i => locked.usedClientIds i == client with
    | some i => locked.removeWrites i
    | none => []

section Request

variable (cfg : Configuration) (env : ClientIdEnv)

/-- The writes of `scan`. -/
def scanWrites : ℕ → ClientIdTable → UInt16 → ℕ → List MemoryWrite
  | 0, _, _, _ => []
  | fuel + 1, t, client, increaseCount =>
    if skips cfg env t client then
      if (client &&& t.maxClients).toNat + 1 > t.maxClients.toNat then
        .maxAssigned 0 :: scanWrites fuel { t with maxAssignedClientIdWithoutDiagnosis := 0 }
          t.clientBase increaseCount
      else if increaseCount + 1 > t.maxClients.toNat then []
      else scanWrites fuel t (client + 1) (increaseCount + 1)
    else []

/-- The writes of `autoconfigure`. -/
def autoconfigureWrites (t : ClientIdTable) (client : UInt16) : List MemoryWrite :=
  let first := if client = illegalClient ∨ t.isUsedClientId env client then t.clientBase else client
  let fuel := 2 * t.maxClients.toNat + 4
  match scan cfg env fuel t first 0 with
  | some (t', some client') => scanWrites cfg env fuel t first 0 ++
      [.maxAssigned (t'.setMaxAssignedClientIdWithoutDiagnosis
        client').maxAssignedClientIdWithoutDiagnosis]
  | some (_, none) => scanWrites cfg env fuel t first 0
  | none => []

/-- The writes of `assign`. -/
def assignWrites (t : ClientIdTable) (setClientAsManagerHost : Bool) (client : UInt16) :
    List MemoryWrite :=
  (if setClientAsManagerHost then [.routingManagerHost client, .pid env.pid] else []) ++
    [.usedClientId t.maxUsedClientIdsIndex client,
      .maxUsedClientIdsIndex (t.maxUsedClientIdsIndex + 1)]

/-- The writes of `takeOver`. -/
def takeOverWrites (t : ClientIdTable) (name : String) : List MemoryWrite :=
  if (cfg.routingHost = "" ∨ name = cfg.routingHost) ∧ t.pid ≠ 0 ∧ env.pid ≠ t.pid ∧
      env.alive = false then
    [.routingManagerHost 0]
  else []

/-- The writes of `request_client_id`. -/
def requestWrites (t : ClientIdTable) (name : String) (client : UInt16) : List MemoryWrite :=
  let locked := t.lock env
  let t' := takeOver cfg env locked name
  let isHost := cfg.routingHost ≠ "" ∧ cfg.routingHost = name
  let setClientAsManagerHost := isHost ∨ (cfg.routingHost = "" ∧ t'.routingManagerHost = 0)
  t.lockWrites env ++ takeOverWrites cfg env locked name ++
    if isHost ∧ t'.routingManagerHost ≠ 0 then []
    else if t'.maxUsedClientIdsIndex = t'.maxClients.toNat then []
    else
      match preconfigured cfg env t' name client with
      | some client' => assignWrites env t' setClientAsManagerHost client'
      | none => autoconfigureWrites cfg env t' client ++
        match autoconfigure cfg env t' client with
        | (t'', some client') => assignWrites env t'' setClientAsManagerHost client'
        | (_, none) => []

end Request

/-- The writes of an operation. -/
def writes (t : ClientIdTable) : ClientIdAction → List MemoryWrite
  | .request cfg env name client => requestWrites cfg env t name client
  | .release env client => t.releaseWrites env client

/-! ## All writes -/

/-- The writes of the loop that shifts the table. -/
lemma run_shiftWrites (n i : ℕ) (t : ClientIdTable) :
    Runs.run write t (shiftWrites n i t.usedClientIds) =
      { t with usedClientIds := shiftLoop n i t.usedClientIds } := by
  induction n generalizing i t with
  | zero => rfl
  | succ n ih => exact ih (i + 1) (t.write (.usedClientId i (t.usedClientIds (i + 1))))

/-- The writes that remove an id. -/
lemma run_removeWrites (t : ClientIdTable) (i : ℕ) :
    Runs.run write t (t.removeWrites i) = t.remove i := by
  rw [removeWrites, Runs.run_append, run_shiftWrites]
  rfl

/-- The writes of the consistency check. -/
lemma run_checkWrites (t : ClientIdTable) :
    Runs.run write t t.checkWrites = t.checkClientIdConsistency := by
  rw [checkWrites, checkClientIdConsistency]
  cases (List.range t.maxUsedClientIdsIndex).find?
      fun i => 1 ≤ i && t.usedClientIds (i - 1) == t.usedClientIds i with
  | some i => exact run_removeWrites t i
  | none => rfl

/-- The writes when the mutex is taken. -/
lemma run_lockWrites (t : ClientIdTable) (env : ClientIdEnv) :
    Runs.run write t (t.lockWrites env) = t.lock env := by
  unfold lockWrites lock
  split_ifs
  · exact run_checkWrites t
  · rfl

/-- The writes of `release_client_id`. -/
lemma run_releaseWrites (t : ClientIdTable) (env : ClientIdEnv) (client : UInt16) :
    Runs.run write t (t.releaseWrites env client) = t.releaseClientId env client := by
  simp only [releaseWrites, releaseClientId]
  rw [Runs.run_append, run_lockWrites]
  cases (List.range (t.lock env).maxUsedClientIdsIndex).find?
      fun i => (t.lock env).usedClientIds i == client with
  | some i => exact run_removeWrites _ i
  | none => rfl

section Request

variable (cfg : Configuration) (env : ClientIdEnv)

/-- The writes of the search for a free id. -/
lemma run_scanWrites : ∀ {fuel : ℕ} {t t' : ClientIdTable} {client : UInt16} {n : ℕ}
    {found : Option UInt16}, scan cfg env fuel t client n = some (t', found) →
    Runs.run write t (scanWrites cfg env fuel t client n) = t'
  | 0, _, _, _, _, _, h => by simp [scan] at h
  | fuel + 1, t, t', client, n, found, h => by
    rw [scan] at h
    rw [scanWrites]
    split_ifs at h ⊢ with hskip hlast hcount
    · exact run_scanWrites h
    · simp only [Option.some.injEq, Prod.mk.injEq] at h
      exact h.1
    · exact run_scanWrites h
    · simp only [Option.some.injEq, Prod.mk.injEq] at h
      exact h.1

/-- The writes of the automatic choice of an id. -/
lemma run_autoconfigureWrites (t : ClientIdTable) (client : UInt16) :
    Runs.run write t (autoconfigureWrites cfg env t client) =
      (autoconfigure cfg env t client).1 := by
  simp only [autoconfigureWrites, autoconfigure]
  split
  · rename_i t' client' hscan
    rw [Runs.run_append, run_scanWrites cfg env hscan, hscan]
    rfl
  · rename_i t' hscan
    rw [run_scanWrites cfg env hscan, hscan]
    rfl
  · rename_i hscan
    rw [hscan]
    rfl

/-- The writes that assign an id. -/
lemma run_assignWrites (t : ClientIdTable) (setClientAsManagerHost : Bool) (client : UInt16) :
    Runs.run write t (assignWrites env t setClientAsManagerHost client) =
      assign env t setClientAsManagerHost client := by
  cases setClientAsManagerHost <;> rfl

/-- The writes that take over the id of the routing manager. -/
lemma run_takeOverWrites (t : ClientIdTable) (name : String) :
    Runs.run write t (takeOverWrites cfg env t name) = takeOver cfg env t name := by
  unfold takeOverWrites takeOver
  split_ifs <;> rfl

/-- The writes of `request_client_id`. -/
lemma run_requestWrites (t : ClientIdTable) (name : String) (client : UInt16) :
    Runs.run write t (requestWrites cfg env t name client) =
      (requestClientId cfg env t name client).1 := by
  simp only [requestWrites, requestClientId]
  rw [Runs.run_append, Runs.run_append, run_lockWrites, run_takeOverWrites]
  split_ifs
  · rfl
  · rfl
  · cases preconfigured cfg env (takeOver cfg env (t.lock env) name) name client with
    | some client' => exact run_assignWrites env _ _ _
    | none =>
      dsimp only
      rw [Runs.run_append, run_autoconfigureWrites]
      generalize autoconfigure cfg env (takeOver cfg env (t.lock env) name) client = auto
      obtain ⟨t'', _ | client'⟩ := auto
      · rfl
      · exact run_assignWrites env _ _ _

end Request

/-- **All writes** of an operation together are the operation. -/
theorem run_writes (t : ClientIdTable) : ∀ a : ClientIdAction,
    Runs.run write t (t.writes a) = t.step a
  | .request cfg env name client => run_requestWrites cfg env t name client
  | .release env client => run_releaseWrites t env client

/-! ## An interrupted removal -/

/-- The check, run by a process whose `used_client_ids__` is set or is not: the entries are read if
there are two of them, and nothing comes of reading them through a null pointer. -/
def checkedBy (attached : Bool) (t : ClientIdTable) : Option ClientIdTable :=
  if 1 < t.maxUsedClientIdsIndex then
    if attached then some t.checkClientIdConsistency else none
  else some t

/-- The process that runs the check dies before it has made all of its writes. -/
def DiesChecking (s s' : ClientIdTable) : Prop :=
  ∃ written, written <+: s.checkWrites ∧ s' = Runs.run write s written

/-- The removal of the entry at offset `i` has moved `m` entries and is not yet done. -/
structure Torn (t : ClientIdTable) (i m : ℕ) (s : ClientIdTable) : Prop where
  index : s.maxUsedClientIdsIndex = t.maxUsedClientIdsIndex
  lt : i + m < t.maxUsedClientIdsIndex
  moved : ∀ j < t.maxUsedClientIdsIndex, s.usedClientIds j = shiftLoop m i t.usedClientIds j

/-- A part of the writes of the loop is the loop with fewer rounds. -/
lemma prefix_shiftWrites {n i : ℕ} {t : ClientIdTable} {written : List MemoryWrite}
    (h : written <+: shiftWrites n i t.usedClientIds) : ∃ m ≤ n,
      Runs.run write t written = { t with usedClientIds := shiftLoop m i t.usedClientIds } := by
  induction n generalizing i t written with
  | zero =>
    obtain rfl := List.prefix_nil.mp h
    exact ⟨0, Nat.le_refl 0, rfl⟩
  | succ n ih =>
    obtain rfl | ⟨rest, rfl, hrest⟩ := List.prefix_cons_iff.mp h
    · exact ⟨0, Nat.zero_le _, rfl⟩
    · obtain ⟨m, hm, hrun⟩ :=
        @ih (i + 1) (t.write (.usedClientId i (t.usedClientIds (i + 1)))) rest hrest
      exact ⟨m + 1, Nat.succ_le_succ hm, hrun⟩

/-- A part of the writes of a removal. -/
lemma prefix_removeWrites {i : ℕ} {t : ClientIdTable} {written : List MemoryWrite}
    (h : written <+: t.removeWrites i) :
    Runs.run write t written = t.remove i ∨ ∃ m ≤ t.maxUsedClientIdsIndex - 1 - i,
      Runs.run write t written = { t with usedClientIds := shiftLoop m i t.usedClientIds } := by
  obtain rfl | hshift := List.prefix_concat_iff.mp h
  · exact .inl (run_removeWrites t i)
  · exact .inr (prefix_shiftWrites hshift)

section Torn

variable {t s : ClientIdTable} {i m : ℕ}

/-- Nothing has been moved yet. -/
lemma torn_zero (hi : i < t.maxUsedClientIdsIndex) : Torn t i 0 t := ⟨rfl, hi, fun _ _ => rfl⟩

/-- A removal that has not begun has changed no id. -/
lemma Torn.used_zero (h : Torn t i 0 s) : s.used = t.used := by
  rw [used, used, h.index]
  exact List.map_congr_left fun j hj => h.moved j (List.mem_range.mp hj)

/-- More entries are moved. -/
lemma Torn.shift (h : Torn t i m s) {m' : ℕ} (hm' : i + (m + m') < t.maxUsedClientIdsIndex) :
    Torn t i (m + m') { s with usedClientIds := shiftLoop m' (i + m) s.usedClientIds } := by
  refine ⟨h.index, hm', fun j hj => ?_⟩
  change shiftLoop m' (i + m) s.usedClientIds j = _
  rw [shiftLoop_apply, shiftLoop_apply]
  by_cases hj' : i + m ≤ j ∧ j < i + m + m'
  · rw [if_pos hj', if_pos (by omega), h.moved (j + 1) (by omega), shiftLoop_apply,
      if_neg (by omega)]
  · rw [if_neg hj', h.moved j hj, shiftLoop_apply]
    by_cases hin : i ≤ j ∧ j < i + m
    · rw [if_pos hin, if_pos (by omega)]
    · rw [if_neg hin, if_neg (by omega)]

/-- All entries are moved. -/
lemma Torn.used_remove (h : Torn t i m s) : (s.remove (i + m)).used = t.used.eraseIdx i := by
  have hlt := h.lt
  rw [← ClientIdTable.used_remove t (show i < t.maxUsedClientIdsIndex by omega), used, used]
  change (List.range (s.maxUsedClientIdsIndex - 1)).map _ = (List.range _).map _
  rw [h.index]
  refine List.map_congr_left fun j hj => ?_
  have hj' := List.mem_range.mp hj
  obtain ⟨m', hm'⟩ : ∃ m', m + m' = t.maxUsedClientIdsIndex - 1 - i :=
    ⟨t.maxUsedClientIdsIndex - 1 - (i + m), by omega⟩
  have hshift : shiftLoop m' (i + m) s.usedClientIds j = shiftLoop (m + m') i t.usedClientIds j :=
    (h.shift (by omega)).moved j (by omega)
  change shiftLoop (s.maxUsedClientIdsIndex - 1 - (i + m)) (i + m) s.usedClientIds j =
    shiftLoop (t.maxUsedClientIdsIndex - 1 - i) i t.usedClientIds j
  rw [h.index, ← hm', ← hshift, show t.maxUsedClientIdsIndex - 1 - (i + m) = m' by omega]

/-- The first entry that is the same as the one before it is the last one that has been moved. -/
lemma Torn.find? (ht : t.used.Nodup) (h : Torn t i (m + 1) s) :
    (List.range s.maxUsedClientIdsIndex).find?
      (fun j => 1 ≤ j && s.usedClientIds (j - 1) == s.usedClientIds j) = some (i + (m + 1)) := by
  have hlt := h.lt
  rw [List.find?_range_eq_some]
  refine ⟨?_, List.mem_range.mpr (by rw [h.index]; omega), fun j hj => ?_⟩
  · rw [Bool.and_eq_true, decide_eq_true_eq, beq_iff_eq, h.moved _ (by omega), h.moved _ hlt,
      shiftLoop_apply, shiftLoop_apply, if_pos (by omega), if_neg (by omega)]
    exact ⟨by omega, rfl⟩
  · by_contra hdup
    simp only [Bool.not_eq_true', Bool.not_eq_false, Bool.and_eq_true, decide_eq_true_eq,
      beq_iff_eq] at hdup
    obtain ⟨hpos, heq⟩ := hdup
    rw [h.moved _ (by omega), h.moved _ (by omega), shiftLoop_apply, shiftLoop_apply] at heq
    split_ifs at heq
    all_goals
      have := offset_inj ht (by omega) (by omega) heq
      omega

/-- **The check completes an interrupted removal.** -/
theorem Torn.used_check (ht : t.used.Nodup) (h : Torn t i (m + 1) s) :
    s.checkClientIdConsistency.used = t.used.eraseIdx i := by
  rw [checkClientIdConsistency, h.find? ht]
  exact h.used_remove

/-- On a table without duplicates the check writes nothing. -/
lemma checkWrites_of_nodup (h : s.used.Nodup) : s.checkWrites = [] := by
  rw [checkWrites, find?_of_nodup h]

/-- Taking the mutex writes nothing if no id is there twice. -/
lemma lockWrites_of_nodup (env : ClientIdEnv) (h : s.used.Nodup) : s.lockWrites env = [] := by
  unfold lockWrites
  split_ifs
  · exact checkWrites_of_nodup h
  · rfl

end Torn

/-- What an interrupted operation can leave: the table as it was, as it was to become, or with a
removal that is not yet done. -/
inductive Recoverable (before after : List UInt16) (s : ClientIdTable) : Prop
  | before (h : s.used = before)
  | after (h : s.used = after)
  | torn {t : ClientIdTable} {i m : ℕ} (h : Torn t i m s) (hbefore : t.used = before)
      (hafter : t.used.eraseIdx i = after)

section Recoverable

variable {before after : List UInt16} {s s' : ClientIdTable}

/-- The check leads out of such a state. -/
lemma Recoverable.used_check (hbefore : before.Nodup) (hafter : after.Nodup)
    (h : Recoverable before after s) :
    s.checkClientIdConsistency.used = before ∨ s.checkClientIdConsistency.used = after := by
  cases h with
  | before h => exact .inl (by rwa [checkClientIdConsistency_of_nodup (h ▸ hbefore)])
  | after h => exact .inr (by rwa [checkClientIdConsistency_of_nodup (h ▸ hafter)])
  | @torn t i m h ht hremoved =>
    cases m with
    | zero =>
      have hused := h.used_zero.trans ht
      exact .inl (by rwa [checkClientIdConsistency_of_nodup (hused ▸ hbefore)])
    | succ m => exact .inr ((h.used_check (ht ▸ hbefore)).trans hremoved)

/-- A process that dies in the check leaves such a state again. -/
lemma Recoverable.dies (hbefore : before.Nodup) (hafter : after.Nodup)
    (h : Recoverable before after s) (hs : DiesChecking s s') : Recoverable before after s' := by
  obtain ⟨written, hwritten, rfl⟩ := hs
  have hquiet (hused : s.used.Nodup) : Runs.run write s written = s := by
    rw [checkWrites_of_nodup hused] at hwritten
    obtain rfl := List.prefix_nil.mp hwritten
    rfl
  cases h with
  | before h => exact .before (by rwa [hquiet (h ▸ hbefore)])
  | after h => exact .after (by rwa [hquiet (h ▸ hafter)])
  | @torn t i m h ht hremoved =>
    cases m with
    | zero =>
      have hused := h.used_zero.trans ht
      exact .before (by rwa [hquiet (hused ▸ hbefore)])
    | succ m =>
      rw [checkWrites, h.find? (ht ▸ hbefore)] at hwritten
      obtain hrun | ⟨m', hm', hrun⟩ := prefix_removeWrites hwritten
      · rw [hrun]
        exact .after (h.used_remove.trans hremoved)
      · rw [hrun]
        have hlt := h.lt
        rw [h.index] at hm'
        exact .torn (h.shift (by omega)) ht hremoved

/-- However many processes die in the check one after the other. -/
lemma Recoverable.dies_all (hbefore : before.Nodup) (hafter : after.Nodup)
    (h : Recoverable before after s) (hs : Relation.ReflTransGen DiesChecking s s') :
    Recoverable before after s' := by
  induction hs with
  | refl => exact h
  | tail _ hdies ih => exact ih.dies hbefore hafter hdies

end Recoverable

/-! ## Interrupted operations -/

/-- An interrupted release. -/
lemma recoverable_release {t : ClientIdTable} (h : t.used.Nodup) (env : ClientIdEnv)
    (client : UInt16) {written : List MemoryWrite} (hw : written <+: t.releaseWrites env client) :
    Recoverable t.used (t.releaseClientId env client).used (Runs.run write t written) := by
  simp only [releaseWrites, lockWrites_of_nodup env h, lock_of_nodup env h, List.nil_append] at hw
  simp only [releaseClientId, lock_of_nodup env h]
  cases hfind : (List.range t.maxUsedClientIdsIndex).find? fun i => t.usedClientIds i == client with
  | some i =>
    have hi : i < t.maxUsedClientIdsIndex := List.mem_range.mp (List.mem_of_find?_eq_some hfind)
    rw [hfind] at hw
    obtain hrun | ⟨m, hm, hrun⟩ := prefix_removeWrites hw
    · exact .after (by rw [hrun])
    · rw [hrun]
      rw [← Nat.zero_add m] at hm ⊢
      exact .torn ((torn_zero hi).shift (by omega)) rfl (used_remove t hi).symm
  | none =>
    rw [hfind] at hw
    obtain rfl := List.prefix_nil.mp hw
    exact .before rfl

end ClientIdTable

/-- A write that does not concern the array. -/
def MemoryWrite.Bookkeeping : MemoryWrite → Prop
  | .usedClientId _ _ | .maxUsedClientIdsIndex _ => False
  | .maxAssigned _ | .routingManagerHost _ | .pid _ => True

namespace ClientIdTable

section Request

variable {cfg : Configuration} {env : ClientIdEnv} {t : ClientIdTable}

/-- Writes of the bookkeeping change no id. -/
lemma run_bookkeeping {ws : List MemoryWrite} (h : ∀ w ∈ ws, w.Bookkeeping) :
    (Runs.run write t ws).usedClientIds = t.usedClientIds ∧
      (Runs.run write t ws).maxUsedClientIdsIndex = t.maxUsedClientIdsIndex := by
  induction ws generalizing t with
  | nil => exact ⟨rfl, rfl⟩
  | cons w ws ih =>
    obtain ⟨hw, hws⟩ := List.forall_mem_cons.mp h
    have hrun := @ih (t.write w) hws
    cases w with
    | usedClientId | maxUsedClientIdsIndex => exact hw.elim
    | maxAssigned | routingManagerHost | pid => exact hrun

/-- The ids in use after writes of the bookkeeping. -/
lemma used_run_bookkeeping {ws : List MemoryWrite} (h : ∀ w ∈ ws, w.Bookkeeping) :
    (Runs.run write t ws).used = t.used := by
  rw [used, (run_bookkeeping h).1, (run_bookkeeping h).2, used]

/-- The search for a free id is bookkeeping. -/
lemma bookkeeping_scanWrites : ∀ {fuel : ℕ} {t : ClientIdTable} {client : UInt16} {n : ℕ},
    ∀ w ∈ scanWrites cfg env fuel t client n, w.Bookkeeping
  | 0, _, _, _, w, hw => absurd hw List.not_mem_nil
  | fuel + 1, t, client, n, w, hw => by
    rw [scanWrites] at hw
    split_ifs at hw
    · obtain rfl | hw := List.mem_cons.mp hw
      · trivial
      · exact bookkeeping_scanWrites w hw
    · exact absurd hw List.not_mem_nil
    · exact bookkeeping_scanWrites w hw
    · exact absurd hw List.not_mem_nil

/-- The automatic choice of an id is bookkeeping. -/
lemma bookkeeping_autoconfigureWrites (client : UInt16) :
    ∀ w ∈ autoconfigureWrites cfg env t client, w.Bookkeeping := by
  intro w hw
  simp only [autoconfigureWrites] at hw
  split at hw
  · obtain hw | hw := List.mem_append.mp hw
    · exact bookkeeping_scanWrites w hw
    · rw [List.mem_singleton.mp hw]
      trivial
  · exact bookkeeping_scanWrites w hw
  · exact absurd hw List.not_mem_nil

/-- Taking over the id of the routing manager is bookkeeping. -/
lemma bookkeeping_takeOverWrites (name : String) :
    ∀ w ∈ takeOverWrites cfg env t name, w.Bookkeeping := by
  intro w hw
  unfold takeOverWrites at hw
  split_ifs at hw
  · rw [List.mem_singleton.mp hw]
    trivial
  · exact absurd hw List.not_mem_nil

/-- What autoconfiguration finds is not in use. -/
lemma autoconfigure_unused {client client' : UInt16}
    (h : (autoconfigure cfg env t client).2 = some client') : client' ∉ t.used := by
  simp only [autoconfigure] at h
  cases hscan : scan cfg env (2 * t.maxClients.toNat + 4) t
      (if client = illegalClient ∨ t.isUsedClientId env client = true then t.clientBase else client)
      0 with
  | none => simp [hscan] at h
  | some found =>
    obtain ⟨t', _ | found⟩ := found
    · simp [hscan] at h
    · obtain ⟨⟨x, rfl⟩, hfound⟩ := scan_spec hscan
      obtain rfl : found = client' := by simpa [hscan] using h
      have hskip := (hfound found rfl).1
      rw [skips, Bool.or_eq_false_iff, Bool.or_eq_false_iff] at hskip
      exact notMem_used_of_not_isUsed hskip.1.1

/-- The end of a request: some bookkeeping, and an identifier that is not in use is written behind the
others. -/
def Appends (t : ClientIdTable) (ws : List MemoryWrite) : Prop :=
  ∃ pre : List MemoryWrite, (∀ w ∈ pre, w.Bookkeeping) ∧ (ws = pre ∨ ∃ client ∉ t.used,
    ws = pre ++ [.usedClientId t.maxUsedClientIdsIndex client] ++
      [.maxUsedClientIdsIndex (t.maxUsedClientIdsIndex + 1)])

/-- Bookkeeping before it does not matter. -/
lemma Appends.append {pre ws : List MemoryWrite} (hpre : ∀ w ∈ pre, w.Bookkeeping)
    (h : Appends (Runs.run write t pre) ws) : Appends t (pre ++ ws) := by
  obtain ⟨pre', hpre', h⟩ := h
  refine ⟨pre ++ pre', List.forall_mem_append.mpr ⟨hpre, hpre'⟩, ?_⟩
  obtain rfl | ⟨client, hclient, rfl⟩ := h
  · exact .inl rfl
  · rw [used_run_bookkeeping hpre] at hclient
    refine .inr ⟨client, hclient, ?_⟩
    simp only [(run_bookkeeping hpre).2, List.append_assoc]

/-- No writes append nothing. -/
lemma appends_nil : Appends t [] := ⟨[], fun _ h => absurd h List.not_mem_nil, .inl rfl⟩

/-- Assigning an id appends it. -/
lemma appends_assignWrites (setClientAsManagerHost : Bool) {client : UInt16}
    (hclient : client ∉ t.used) : Appends t (assignWrites env t setClientAsManagerHost client) := by
  cases setClientAsManagerHost with
  | false => exact ⟨[], fun _ h => absurd h List.not_mem_nil, .inr ⟨client, hclient, rfl⟩⟩
  | true =>
    refine ⟨[.routingManagerHost client, .pid env.pid], fun w hw => ?_, .inr ⟨client, hclient, rfl⟩⟩
    obtain rfl | hw := List.mem_cons.mp hw
    · trivial
    · rw [List.mem_singleton.mp hw]
      trivial

/-- `request_client_id` appends an id, if any. -/
lemma appends_requestWrites (h : t.used.Nodup) (name : String) (client : UInt16) :
    Appends t (requestWrites cfg env t name client) := by
  simp only [requestWrites, lockWrites_of_nodup env h, lock_of_nodup env h, List.nil_append]
  refine Appends.append (bookkeeping_takeOverWrites name) ?_
  rw [run_takeOverWrites]
  generalize takeOver cfg env t name = t'
  split_ifs
  · exact appends_nil
  · exact appends_nil
  · cases hpre : preconfigured cfg env t' name client with
    | some client' => exact appends_assignWrites _ (preconfigured_spec hpre).1
    | none =>
      dsimp only
      refine Appends.append (bookkeeping_autoconfigureWrites client) ?_
      have hused := @used_run_bookkeeping t' _ (@bookkeeping_autoconfigureWrites cfg env t' client)
      rw [run_autoconfigureWrites] at hused ⊢
      cases hauto : autoconfigure cfg env t' client with
      | mk t'' found =>
        cases found with
        | none => exact appends_nil
        | some client' =>
          refine appends_assignWrites _ ?_
          rw [hauto] at hused
          rw [hused]
          exact autoconfigure_unused (by rw [hauto])

/-- The ids in use after one is appended. -/
lemma used_append (t : ClientIdTable) (client : UInt16) :
    ((t.write (.usedClientId t.maxUsedClientIdsIndex client)).write
      (.maxUsedClientIdsIndex (t.maxUsedClientIdsIndex + 1))).used = t.used ++ [client] :=
  @used_assign ⟨false, 0, true, fun _ => false⟩ t false client

/-- All of the writes. -/
lemma Appends.used_run {ws : List MemoryWrite} (h : Appends t ws) :
    (Runs.run write t ws).used = t.used ∨
      ∃ client ∉ t.used, (Runs.run write t ws).used = t.used ++ [client] := by
  obtain ⟨pre, hpre, rfl | ⟨client, hclient, rfl⟩⟩ := h
  · exact .inl (used_run_bookkeeping hpre)
  · refine .inr ⟨client, hclient, ?_⟩
    rw [Runs.run_append, Runs.run_append, ← used_run_bookkeeping (t := t) hpre, ← used_append,
      (run_bookkeeping hpre).2]
    rfl

/-- An interrupted request. -/
lemma Appends.recoverable {ws written : List MemoryWrite} (h : Appends t ws) (hw : written <+: ws) :
    Recoverable t.used (Runs.run write t ws).used (Runs.run write t written) := by
  obtain ⟨pre, hpre, rfl | ⟨client, hclient, rfl⟩⟩ := h
  · exact .before (used_run_bookkeeping fun w hmem => hpre w (hw.subset hmem))
  · obtain rfl | hw := List.prefix_concat_iff.mp hw
    · exact .after rfl
    · obtain rfl | hw := List.prefix_concat_iff.mp hw
      · -- the identifier stands behind the entries that count
        refine .before ?_
        rw [Runs.run_append, ← used_run_bookkeeping (t := t) hpre]
        refine List.map_congr_left fun j hj => ?_
        have hj' : j < (Runs.run write t pre).maxUsedClientIdsIndex := List.mem_range.mp hj
        rw [(run_bookkeeping hpre).2] at hj'
        exact Function.update_of_ne (by omega) _ _
      · exact .before (used_run_bookkeeping fun w hmem => hpre w (hw.subset hmem))

end Request

/-- An operation that dies after some of its writes. -/
theorem recoverable_of_isPrefix {t : ClientIdTable} (h : t.used.Nodup) (a : ClientIdAction)
    {written : List MemoryWrite} (hw : written <+: t.writes a) :
    Recoverable t.used (t.step a).used (Runs.run write t written) := by
  cases a with
  | request cfg env name client =>
    rw [← run_writes]
    exact (appends_requestWrites h name client).recoverable hw
  | release env client => exact recoverable_release h env client hw

end ClientIdTable

/-- The identifier that an operation removes. -/
def ClientIdAction.Releases : ClientIdAction → UInt16 → Prop
  | .request .., _ => False
  | .release _ client, client' => client = client'

namespace ClientIdTable

/-- What the check has to leave behind: pairwise distinct identifiers, those from before the operation
or those from behind it, and all that belong to other applications. -/
structure Restored (a : ClientIdAction) (t t' : ClientIdTable) : Prop where
  nodup : t'.used.Nodup
  used : t'.used = t.used ∨ t'.used = (t.step a).used
  others : ∀ client ∈ t.used, ¬ a.Releases client → client ∈ t'.used

/-- An operation keeps the identifiers distinct, and those of other applications in the table. -/
lemma used_step {t : ClientIdTable} (h : t.used.Nodup) (a : ClientIdAction) :
    (t.step a).used.Nodup ∧ ∀ client ∈ t.used, ¬ a.Releases client → client ∈ (t.step a).used := by
  cases a with
  | request cfg env name client =>
    rw [← run_writes]
    obtain hused | ⟨client', hclient', hused⟩ :=
      (@appends_requestWrites cfg env t h name client).used_run
    · exact ⟨by rwa [writes, hused], fun c hc _ => by rwa [writes, hused]⟩
    · rw [writes, hused]
      refine ⟨?_, fun c hc _ => List.mem_append_left _ hc⟩
      exact List.Nodup.append h (List.nodup_singleton _)
        (List.disjoint_singleton.mpr hclient')
  | release env client =>
    simp only [step, releaseClientId, lock_of_nodup env h]
    split
    · rename_i i hfind
      have hi : i < t.maxUsedClientIdsIndex := List.mem_range.mp (List.mem_of_find?_eq_some hfind)
      have hclient : t.usedClientIds i = client := by simpa using List.find?_some hfind
      rw [used_remove t hi]
      refine ⟨h.eraseIdx i, fun c hc hother => ?_⟩
      obtain ⟨j, hj⟩ := List.mem_iff_getElem?.mp hc
      refine List.mem_eraseIdx_iff_getElem?.mpr ⟨j, ?_, hj⟩
      rintro rfl
      rw [getElem?_used, if_pos hi, hclient] at hj
      exact hother (Option.some.inj hj)
    · exact ⟨h, fun c hc _ => hc⟩

/-- With at most one entry the check reads nothing. -/
lemma checkClientIdConsistency_of_index_le {s : ClientIdTable} (h : s.maxUsedClientIdsIndex ≤ 1) :
    s.checkClientIdConsistency = s := by
  refine checkClientIdConsistency_of_nodup ?_
  obtain hzero | hone := Nat.le_one_iff_eq_zero_or_eq_one.mp h
  · simp [used, hzero]
  · simp [used, hone]

/-- **The table is restored** after a process has died in an operation on a table with distinct
identifiers, and others in the check, each of them after any of its writes: exactly if the next
process has set its pointer, or the table has at most one entry.

**Proof sketch.** A removal that has moved some entries has the last of them twice, and removing the
second one completes it; the check that does so is a removal of the same kind. An identifier that is
appended does not count until the index is written. -/
theorem restored_iff (t : ClientIdTable) (h : t.used.Nodup) (a : ClientIdAction)
    (written : List MemoryWrite) (hwritten : written <+: t.writes a) (s : ClientIdTable)
    (hs : Relation.ReflTransGen DiesChecking (Runs.run write t written) s) (attached : Bool) :
    (∃ t', s.checkedBy attached = some t' ∧ Restored a t t') ↔
      attached = true ∨ s.maxUsedClientIdsIndex ≤ 1 := by
  have hstep := used_step h a
  have hrecoverable := (recoverable_of_isPrefix h a hwritten).dies_all h hstep.1 hs
  have hrestored : Restored a t s.checkClientIdConsistency := by
    obtain hused | hused := hrecoverable.used_check h hstep.1
    · exact ⟨hused ▸ h, .inl hused, fun c hc _ => hused ▸ hc⟩
    · exact ⟨hused ▸ hstep.1, .inr hused, fun c hc hother => hused ▸ hstep.2 c hc hother⟩
  constructor
  · rintro ⟨t', hchecked, -⟩
    by_contra hnot
    rw [not_or, Bool.not_eq_true, not_le] at hnot
    rw [checkedBy, if_pos hnot.2, hnot.1] at hchecked
    cases hchecked
  · intro hreads
    refine ⟨s.checkClientIdConsistency, ?_, hrestored⟩
    unfold checkedBy
    split_ifs with hindex hattached
    · rfl
    · exact absurd (hreads.resolve_left hattached) (not_le.mpr hindex)
    · rw [checkClientIdConsistency_of_index_le (not_lt.mp hindex)]

/-- Four entries, the second of which goes. -/
def crowdedTable : ClientIdTable :=
  Runs.run step (autoConfigurationInit exampleConfiguration)
    (List.replicate 3 (.request exampleConfiguration exampleEnv "radio" 0))

/-- One process dies when it has moved an entry, the next one when it has moved another, and the third
one finds two equal entries at the end. -/
theorem restored_iff_crowdedTable :
    let torn := Runs.run write crowdedTable
      ((crowdedTable.writes (.release exampleEnv 0x1202)).take 1)
    ∃ t', (Runs.run write torn (torn.checkWrites.take 1)).checkedBy true = some t' ∧
      Restored (.release exampleEnv 0x1202) crowdedTable t' :=
  (restored_iff crowdedTable (by decide) (.release exampleEnv 0x1202) _ (List.take_prefix 1 _) _
    (.single ⟨_, List.take_prefix 1 _, rfl⟩) true).mpr (.inl rfl)

/-- **The table is not restored** by a process that has only just mapped it: it reads through a null
pointer, and the table keeps an entry twice. -/
theorem not_restored_crowdedTable :
    ¬ ∀ (t : ClientIdTable), t.used.Nodup → ∀ (a : ClientIdAction) (written : List MemoryWrite),
      written <+: t.writes a → ∀ s : ClientIdTable,
        Relation.ReflTransGen DiesChecking (Runs.run write t written) s → ∀ attached : Bool,
          ∃ t', s.checkedBy attached = some t' ∧ Restored a t t' := by
  intro hall
  obtain ⟨t', hchecked, -⟩ := hall crowdedTable (by decide) (.release exampleEnv 0x1202) _
    (List.take_prefix 1 _) _ .refl false
  have hnull : (Runs.run write crowdedTable
      ((crowdedTable.writes (.release exampleEnv 0x1202)).take 1)).checkedBy false = none := by
    rfl
  cases hnull.symm.trans hchecked

end ClientIdTable

end Vsomeip
