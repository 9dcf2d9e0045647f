import Mathlib.Data.Nat.Bitwise
import Vsomeip.Lib.Runs
import Vsomeip.Utility.ClientId

set_option relaxedAutoImplicit false
set_option autoImplicit false

/-!
# Client identifiers are unique

Whatever the applications of a host request and release, the identifiers in the table are pairwise
distinct, there are never more of them than allowed, an identifier that is handed out was not in
use, and one that comes from autoconfiguration alone lies in the diagnosis range and is not
configured for any application.

## Main definitions

* `Vsomeip.ClientIdAction`, `Vsomeip.ClientIdTable.step` — the table as a state machine.
* `Vsomeip.ClientIdTable.InRange` — the diagnosis range.
* `Vsomeip.ClientIdTable.Consistent` — the invariant.

## Main results

* `Vsomeip.ClientIdTable.scan_isSome` — the loop that looks for an identifier ends.
* `Vsomeip.ClientIdTable.scan_spec` — what it has found when it ends.
* `Vsomeip.ClientIdTable.clientIds_unique` — the property along every run.
-/

namespace Vsomeip

namespace ClientIdTable

/-! ## The array -/

/-- The loop that moves entries down, as a whole. -/
lemma shiftLoop_apply (n i : ℕ) (memory : ℕ → UInt16) (j : ℕ) :
    shiftLoop n i memory j = if i ≤ j ∧ j < i + n then memory (j + 1) else memory j := by
  induction n generalizing i memory with
  | zero =>
    rw [shiftLoop, if_neg (by omega)]
  | succ n ih =>
    rw [shiftLoop, ih]
    by_cases hj : j = i
    · subst hj
      rw [if_neg (by omega), if_pos (by omega), Function.update_self]
    · by_cases hin : i + 1 ≤ j ∧ j < i + 1 + n
      · rw [if_pos hin, if_pos (by omega), Function.update_of_ne (by omega)]
      · rw [if_neg hin, if_neg (by omega), Function.update_of_ne hj]

/-- The ids in use are the first ones of the table. -/
lemma getElem?_used (t : ClientIdTable) (j : ℕ) :
    t.used[j]? = if j < t.maxUsedClientIdsIndex then some (t.usedClientIds j) else none := by
  rw [used, List.getElem?_map]
  by_cases h : j < t.maxUsedClientIdsIndex
  · rw [if_pos h, List.getElem?_range h]
    rfl
  · rw [if_neg h, List.getElem?_eq_none (by simpa using h)]
    rfl

/-- As many ids are in use as the table says. -/
lemma length_used (t : ClientIdTable) : t.used.length = t.maxUsedClientIdsIndex := by
  simp [used]

/-- Removing an entry of the array is removing an element of the list. -/
lemma used_remove (t : ClientIdTable) {i : ℕ} (hi : i < t.maxUsedClientIdsIndex) :
    (t.remove i).used = t.used.eraseIdx i := by
  apply List.ext_getElem?
  intro j
  rw [getElem?_used, List.getElem?_eraseIdx, getElem?_used, getElem?_used]
  simp only [remove, shiftLoop_apply]
  split_ifs <;> first | rfl | omega

/-- In a table without duplicates an identifier stands in one place. -/
lemma offset_inj {t : ClientIdTable} (h : t.used.Nodup) {i j : ℕ} (hi : i < t.maxUsedClientIdsIndex)
    (hj : j < t.maxUsedClientIdsIndex) (heq : t.usedClientIds i = t.usedClientIds j) : i = j := by
  have hused : t.used[i]? = t.used[j]? := by
    rw [getElem?_used, getElem?_used, if_pos hi, if_pos hj, heq]
  exact (List.getElem?_inj (by rwa [length_used]) h).mp hused

/-- In a table without duplicates the check finds nothing. -/
lemma find?_of_nodup {t : ClientIdTable} (h : t.used.Nodup) :
    (List.range t.maxUsedClientIdsIndex).find?
      (fun i => 1 ≤ i && t.usedClientIds (i - 1) == t.usedClientIds i) = none := by
  rw [List.find?_eq_none]
  intro i hi hdup
  have hi' : i < t.maxUsedClientIdsIndex := List.mem_range.mp hi
  simp only [Bool.and_eq_true, decide_eq_true_eq, beq_iff_eq] at hdup
  have := offset_inj h (by omega) hi' hdup.2
  omega

/-- On a table without duplicates there is nothing to repair. -/
lemma checkClientIdConsistency_of_nodup {t : ClientIdTable} (h : t.used.Nodup) :
    t.checkClientIdConsistency = t := by
  rw [checkClientIdConsistency, find?_of_nodup h]

/-- Taking the mutex changes nothing if no id is there twice. -/
lemma lock_of_nodup {t : ClientIdTable} (env : ClientIdEnv) (h : t.used.Nodup) : t.lock env = t := by
  unfold lock
  split_ifs
  · exact checkClientIdConsistency_of_nodup h
  · rfl

/-! ## The diagnosis range -/

/-- The identifiers with the same bits under the mask as the base, without the one that has no other
bits. -/
def InRange (mask base client : UInt16) : Prop :=
  client &&& mask = base &&& mask ∧ client &&& ~~~ mask ≠ 0

/-- The mask keeps all bits but the lowest `k`, of which there are at least two. -/
structure LowBits (mask : UInt16) (k : ℕ) : Prop where
  two_le : 2 ≤ k
  le_sixteen : k ≤ 16
  not_mask : (~~~ mask).toNat = 2 ^ k - 1

section Range

variable {mask base client : UInt16} {k : ℕ}

/-- Clearing the lowest `k` bits. -/
lemma and_two_pow_sub_two_pow (hk : k ≤ 16) (c : ℕ) (hc : c < 2 ^ 16) :
    c &&& (2 ^ 16 - 2 ^ k) = c / 2 ^ k * 2 ^ k := by
  have hpos := Nat.one_le_two_pow (n := k)
  have hle : 2 ^ k ≤ 2 ^ 16 := Nat.pow_le_pow_right (by decide) hk
  rw [show 2 ^ 16 - 2 ^ k = 2 ^ 16 - ((2 ^ k - 1) + 1) by omega]
  apply Nat.eq_of_testBit_eq
  intro i
  rw [Nat.testBit_and, Nat.testBit_two_pow_sub_succ (by omega), Nat.testBit_two_pow_sub_one,
    Nat.testBit_mul_two_pow, Nat.testBit_div_two_pow]
  by_cases h : k ≤ i
  · by_cases h16 : i < 16
    · simp [h, h16, show ¬ i < k by omega, show i - k + k = i by omega]
    · have hbit : c.testBit i = false :=
        Nat.testBit_lt_two_pow (lt_of_lt_of_le hc (Nat.pow_le_pow_right (by decide) (by omega)))
      simp [h, hbit, show i - k + k = i by omega]
  · simp [h, show i < k by omega]

/-- The low bits of an id. -/
lemma LowBits.toNat_and_not (h : LowBits mask k) (client : UInt16) :
    (client &&& ~~~ mask).toNat = client.toNat % 2 ^ k := by
  rw [UInt16.toNat_and, h.not_mask, Nat.and_two_pow_sub_one_eq_mod]

/-- The high bits of an id. -/
lemma LowBits.toNat_and (h : LowBits mask k) (client : UInt16) :
    (client &&& mask).toNat = client.toNat / 2 ^ k * 2 ^ k := by
  have hmask := h.not_mask
  have hlt := mask.toNat_lt
  have hpos := Nat.one_le_two_pow (n := k)
  rw [UInt16.toNat_not, UInt16.size] at hmask
  rw [UInt16.toNat_and, show mask.toNat = 2 ^ 16 - 2 ^ k by omega,
    and_two_pow_sub_two_pow h.le_sixteen _ client.toNat_lt]

/-- The diagnosis range in terms of numbers. -/
lemma LowBits.inRange_iff (h : LowBits mask k) :
    InRange mask base client ↔
      client.toNat / 2 ^ k = base.toNat / 2 ^ k ∧ client.toNat % 2 ^ k ≠ 0 := by
  have hpos := Nat.one_le_two_pow (n := k)
  rw [InRange, ← UInt16.toNat_inj, h.toNat_and, h.toNat_and, Nat.mul_left_inj (by omega), ne_eq,
    ← UInt16.toNat_inj, h.toNat_and_not]
  rfl

/-- The next identifier, if the lowest bits are not all set. -/
lemma LowBits.succ_toNat (h : LowBits mask k)
    (hlow : (client &&& ~~~ mask).toNat + 1 ≤ (~~~ mask).toNat) :
    (client + 1).toNat / 2 ^ k = client.toNat / 2 ^ k ∧
      (client + 1).toNat % 2 ^ k = client.toNat % 2 ^ k + 1 := by
  rw [h.toNat_and_not, h.not_mask] at hlow
  have hpos := Nat.one_le_two_pow (n := k)
  have hlt := client.toNat_lt
  have hdiv := Nat.div_add_mod client.toNat (2 ^ k)
  have hsplit : 2 ^ 16 = 2 ^ k * 2 ^ (16 - k) := by
    rw [← pow_add, Nat.add_sub_cancel' h.le_sixteen]
  have hquot : client.toNat / 2 ^ k + 1 ≤ 2 ^ (16 - k) := by
    rw [Nat.succ_le_iff, Nat.div_lt_iff_lt_mul (by omega), Nat.mul_comm, ← hsplit]
    exact hlt
  have hbound : client.toNat + 1 < 2 ^ 16 := by
    have hmul := Nat.mul_le_mul_left (2 ^ k) hquot
    rw [← hsplit, Nat.mul_add, Nat.mul_one] at hmul
    omega
  have hsucc : (client + 1).toNat = client.toNat + 1 := by
    rw [UInt16.toNat_add]
    exact Nat.mod_eq_of_lt hbound
  rw [hsucc]
  constructor
  · rw [Nat.div_eq_iff (by omega)]
    have hcomm := Nat.mul_comm (2 ^ k) (client.toNat / 2 ^ k)
    omega
  · have hone : 1 < 2 ^ k := Nat.one_lt_two_pow (by have := h.two_le; omega)
    rw [Nat.add_mod, Nat.mod_eq_of_lt hone, Nat.mod_eq_of_lt (by omega)]

/-- The next id is in the range, if the low bits do not overflow. -/
lemma LowBits.inRange_succ (h : LowBits mask k) (hc : InRange mask base client)
    (hlow : (client &&& ~~~ mask).toNat + 1 ≤ (~~~ mask).toNat) :
    InRange mask base (client + 1) := by
  obtain ⟨hdiv, hmod⟩ := h.succ_toNat hlow
  rw [h.inRange_iff] at hc ⊢
  exact ⟨hdiv.trans hc.1, by omega⟩

end Range

/-! ## Looking for an identifier -/

section Scan

variable {cfg : Configuration} {env : ClientIdEnv}

/-- What the loop that looks for an identifier has found: it has changed the last assigned identifier
at most; the identifier is not skipped; and it has every property that the base has and that
counting up keeps.

**Proof sketch.** Induction on the rounds. A round that wraps around starts again at the base, any
other one counts up. -/
lemma scan_spec : ∀ {fuel : ℕ} {t : ClientIdTable} {client : UInt16} {n : ℕ} {t' : ClientIdTable}
    {r : Option UInt16}, scan cfg env fuel t client n = some (t', r) →
    (∃ x, t' = { t with maxAssignedClientIdWithoutDiagnosis := x }) ∧
      ∀ client', r = some client' → skips cfg env t' client' = false ∧
        ∀ P : UInt16 → Prop, P t.clientBase →
          (∀ c, P c → (c &&& t.maxClients).toNat + 1 ≤ t.maxClients.toNat → P (c + 1)) →
          P client → P client'
  | 0, _, _, _, _, _, h => by simp [scan] at h
  | fuel + 1, t, client, n, t', r, h => by
    rw [scan] at h
    split_ifs at h with hskip hwrap hmax
    · obtain ⟨⟨x, hx⟩, hfound⟩ := scan_spec h
      refine ⟨⟨x, hx⟩, fun client' hr => ?_⟩
      obtain ⟨hns, hP⟩ := hfound client' hr
      exact ⟨hns, fun P hbase hsucc _ => hP P hbase hsucc hbase⟩
    · simp only [Option.some.injEq, Prod.mk.injEq] at h
      obtain ⟨rfl, rfl⟩ := h
      exact ⟨⟨t.maxAssignedClientIdWithoutDiagnosis, rfl⟩, fun client' hr => by simp at hr⟩
    · obtain ⟨hx, hfound⟩ := scan_spec h
      refine ⟨hx, fun client' hr => ?_⟩
      obtain ⟨hns, hP⟩ := hfound client' hr
      exact ⟨hns, fun P hbase hsucc hc => hP P hbase hsucc (hsucc client hc (by omega))⟩
    · simp only [Option.some.injEq, Prod.mk.injEq] at h
      obtain ⟨rfl, rfl⟩ := h
      refine ⟨⟨t.maxAssignedClientIdWithoutDiagnosis, rfl⟩, fun client' hr => ?_⟩
      obtain rfl : client = client' := by simpa using hr
      exact ⟨by simpa using hskip, fun _ _ _ hc => hc⟩

/-- The loop ends: a round that does not count is followed by one that does.

**Proof sketch.** Induction on the fuel, with twice the rounds that may still be counted, and one more
if the next round wraps around. -/
lemma scan_isSome : ∀ {fuel : ℕ} {t : ClientIdTable} {client : UInt16} {n : ℕ},
    (t.clientBase &&& t.maxClients).toNat + 1 ≤ t.maxClients.toNat →
    2 * (t.maxClients.toNat + 1 - n) +
      (if (client &&& t.maxClients).toNat + 1 > t.maxClients.toNat then 1 else 0) < fuel →
    (scan cfg env fuel t client n).isSome
  | 0, _, _, _, _, h => absurd h (Nat.not_lt_zero _)
  | fuel + 1, t, client, n, hbase, h => by
    rw [scan]
    split_ifs with hskip hwrap hmax
    · rw [if_pos hwrap] at h
      refine scan_isSome hbase ?_
      rw [if_neg (show ¬ (t.clientBase &&& t.maxClients).toNat + 1 > t.maxClients.toNat by omega)]
      change 2 * (t.maxClients.toNat + 1 - n) + 0 < fuel
      omega
    · rfl
    · rw [if_neg hwrap] at h
      refine scan_isSome hbase ?_
      split_ifs <;> omega
    · rfl

end Scan

/-! ## The invariant -/

/-- The table for a mask and a base: the identifiers are distinct, and there are not too many. -/
structure Consistent (mask base : UInt16) (t : ClientIdTable) : Prop where
  nodup : t.used.Nodup
  index_le : t.maxUsedClientIdsIndex ≤ t.maxClients.toNat
  maxClients : t.maxClients = ~~~ mask
  clientBase : t.clientBase = base

section Invariant

variable {mask base : UInt16} {k : ℕ} {t : ClientIdTable} {cfg : Configuration} {env : ClientIdEnv}

/-- Only the array, its index, the base and the number of clients matter. -/
lemma Consistent.of_eq {t' : ClientIdTable} (h : Consistent mask base t)
    (hused : t'.usedClientIds = t.usedClientIds)
    (hindex : t'.maxUsedClientIdsIndex = t.maxUsedClientIdsIndex)
    (hmax : t'.maxClients = t.maxClients) (hbase : t'.clientBase = t.clientBase) :
    Consistent mask base t' := by
  refine ⟨?_, ?_, hmax.trans h.maxClients, hbase.trans h.clientBase⟩
  · rw [used, hused, hindex]
    exact h.nodup
  · rw [hindex, hmax]
    exact h.index_le

/-- Removing an id keeps the table consistent. -/
lemma Consistent.remove (h : Consistent mask base t) {i : ℕ} (hi : i < t.maxUsedClientIdsIndex) :
    Consistent mask base (t.remove i) := by
  refine ⟨?_, ?_, h.maxClients, h.clientBase⟩
  · rw [used_remove t hi]
    exact h.nodup.eraseIdx i
  · exact le_trans (Nat.sub_le _ _) h.index_le

/-- A release keeps the invariant, whichever identifier is released. -/
lemma Consistent.releaseClientId (h : Consistent mask base t) (env : ClientIdEnv) (client : UInt16) :
    Consistent mask base (t.releaseClientId env client) := by
  simp only [ClientIdTable.releaseClientId, lock_of_nodup env h.nodup]
  split
  · rename_i i hi
    exact h.remove (List.mem_range.mp (List.mem_of_find?_eq_some hi))
  · exact h

/-- The ids in use after one is assigned. -/
lemma used_assign (t : ClientIdTable) (setClientAsManagerHost : Bool) (client : UInt16) :
    (assign env t setClientAsManagerHost client).used = t.used ++ [client] := by
  have hmap : (List.range t.maxUsedClientIdsIndex).map
      (Function.update t.usedClientIds t.maxUsedClientIdsIndex client) =
      (List.range t.maxUsedClientIdsIndex).map t.usedClientIds := by
    refine List.map_congr_left fun j hj => ?_
    rw [Function.update_of_ne (by have := List.mem_range.mp hj; omega)]
  unfold assign
  split_ifs <;> simp [used, List.range_succ, hmap]

/-- An identifier that is not in use can be assigned if the table is not full. -/
lemma Consistent.assign (h : Consistent mask base t)
    (hfull : t.maxUsedClientIdsIndex ≠ t.maxClients.toNat) (setClientAsManagerHost : Bool)
    {client : UInt16} (hclient : client ∉ t.used) :
    Consistent mask base (assign env t setClientAsManagerHost client) := by
  have hle := h.index_le
  refine ⟨?_, ?_, ?_, ?_⟩
  · rw [used_assign, List.nodup_append]
    refine ⟨h.nodup, List.nodup_singleton _, fun a ha b hb => ?_⟩
    rw [List.mem_singleton.mp hb]
    exact fun hab => hclient (hab ▸ ha)
  · unfold ClientIdTable.assign
    split_ifs
    · change t.maxUsedClientIdsIndex + 1 ≤ t.maxClients.toNat
      omega
    · change t.maxUsedClientIdsIndex + 1 ≤ t.maxClients.toNat
      omega
  · unfold ClientIdTable.assign
    split_ifs <;> exact h.maxClients
  · unfold ClientIdTable.assign
    split_ifs <;> exact h.clientBase

/-- An identifier that is not used is not in the table. -/
lemma notMem_used_of_not_isUsed {client : UInt16} (h : t.isUsedClientId env client = false) :
    client ∉ t.used := by
  rw [isUsedClientId, Bool.or_eq_false_iff] at h
  simpa using h.1

/-- A preconfigured identifier is not in use, and is only taken if an identifier was requested. -/
lemma preconfigured_spec {name : String} {client client' : UInt16}
    (h : preconfigured cfg env t name client = some client') :
    client' ∉ t.used ∧ client ≠ illegalClient := by
  unfold preconfigured at h
  dsimp only at h
  split_ifs at h with hname hid heq hused hpre hclient
  · obtain rfl : client = client' := by simpa using h
    exact ⟨notMem_used_of_not_isUsed (by simpa using hused), hname.2⟩
  · obtain rfl : client = client' := by simpa using h
    exact ⟨notMem_used_of_not_isUsed (by simpa using hclient), hname.2⟩
  · obtain rfl : cfg.getId name = client' := by simpa using h
    exact ⟨notMem_used_of_not_isUsed (by simpa using hpre), hname.2⟩

/-- What autoconfiguration finds is not in use and not configured, and lies in the diagnosis range if
no identifier was requested; the array stays as it is. -/
lemma autoconfigure_spec (hmask : LowBits mask k) (h : Consistent mask base t)
    (hbase : (base &&& ~~~ mask).toNat = 1) (client : UInt16) :
    Consistent mask base (autoconfigure cfg env t client).1 ∧
      (autoconfigure cfg env t client).1.maxUsedClientIdsIndex = t.maxUsedClientIdsIndex ∧
      ∀ client', (autoconfigure cfg env t client).2 = some client' →
        client' ∉ (autoconfigure cfg env t client).1.used ∧ client' ∉ t.used ∧
          cfg.isConfiguredClientId client' = false ∧
          (client = illegalClient → InRange mask base client') := by
  have hlow : (t.clientBase &&& t.maxClients).toNat + 1 ≤ t.maxClients.toNat := by
    rw [h.clientBase, h.maxClients, hbase, hmask.not_mask]
    have hfour : 2 ^ 2 ≤ 2 ^ k := Nat.pow_le_pow_right (by decide) hmask.two_le
    omega
  simp only [autoconfigure]
  set first := if client = illegalClient ∨ t.isUsedClientId env client = true then t.clientBase
    else client with hfirst
  have hsome : (scan cfg env (2 * t.maxClients.toNat + 4) t first 0).isSome := by
    refine scan_isSome hlow ?_
    split_ifs <;> omega
  obtain ⟨⟨t', r⟩, hscan⟩ := Option.isSome_iff_exists.mp hsome
  obtain ⟨⟨x, rfl⟩, hfound⟩ := scan_spec hscan
  rw [hscan, Option.getD_some]
  cases r with
  | none => exact ⟨h.of_eq rfl rfl rfl rfl, rfl, fun client' hr => by simp at hr⟩
  | some found =>
    refine ⟨h.of_eq rfl rfl rfl rfl, rfl, fun client' hr => ?_⟩
    obtain rfl : found = client' := by simpa using hr
    obtain ⟨hskip, hP⟩ := hfound found rfl
    simp only [skips, Bool.or_eq_false_iff] at hskip
    have hunused : found ∉ t.used := @notMem_used_of_not_isUsed t env found hskip.1.1
    refine ⟨hunused, hunused, hskip.2, fun hillegal => ?_⟩
    have hbaseRange : InRange mask base t.clientBase := by
      rw [h.clientBase]
      exact ⟨rfl, fun h0 => by simp [h0] at hbase⟩
    refine hP (InRange mask base) hbaseRange (fun c hc hle => ?_) ?_
    · rw [h.maxClients] at hle
      exact hmask.inRange_succ hc hle
    · rw [hfirst, if_pos (Or.inl hillegal)]
      exact hbaseRange

end Invariant

/-! ## Runs -/

end ClientIdTable

/-- What the applications of a host do, each with its own configuration and environment. -/
inductive ClientIdAction
  | request (cfg : Configuration) (env : ClientIdEnv) (name : String) (client : UInt16)
  | release (env : ClientIdEnv) (client : UInt16)

namespace ClientIdTable

/-- The table as a state machine. -/
def step (t : ClientIdTable) : ClientIdAction → ClientIdTable
  | .request cfg env name client => (requestClientId cfg env t name client).1
  | .release env client => t.releaseClientId env client

/-- What is asked of an action: an identifier that is returned was not in use; if none was requested,
it lies in the diagnosis range and is not configured for any application. -/
def Served (mask : UInt16) (t : ClientIdTable) : ClientIdAction → Prop
  | .request cfg env name client =>
    (requestClientId cfg env t name client).2 ≠ illegalClient →
      (requestClientId cfg env t name client).2 ∉ t.used ∧
      (client = illegalClient →
        InRange mask t.clientBase (requestClientId cfg env t name client).2 ∧
        ∀ a ∈ cfg.applications, a.2 ≠ (requestClientId cfg env t name client).2)
  | .release _ _ => True

section Request

variable {mask base : UInt16} {k : ℕ} {t : ClientIdTable}

/-- Forgetting the routing manager does not touch the array. -/
lemma takeOver_spec (cfg : Configuration) (env : ClientIdEnv) (t : ClientIdTable) (name : String) :
    ∃ host, takeOver cfg env t name = { t with routingManagerHost := host } := by
  unfold takeOver
  split_ifs
  · exact ⟨0, rfl⟩
  · exact ⟨t.routingManagerHost, rfl⟩

/-- A request keeps the invariant and is served. -/
lemma consistent_request (hmask : LowBits mask k) (hbase : (base &&& ~~~ mask).toNat = 1)
    (h : Consistent mask base t) (cfg : Configuration) (env : ClientIdEnv) (name : String)
    (client : UInt16) :
    Consistent mask base (t.step (.request cfg env name client)) ∧
      t.Served mask (.request cfg env name client) := by
  obtain ⟨host, hhost⟩ := takeOver_spec cfg env t name
  have h' : Consistent mask base { t with routingManagerHost := host } := h.of_eq rfl rfl rfl rfl
  simp only [step, Served, requestClientId, lock_of_nodup env h.nodup, hhost]
  split_ifs with hmanager hfull
  · exact ⟨h', fun hne => absurd rfl hne⟩
  · exact ⟨h', fun hne => absurd rfl hne⟩
  · cases hpre : preconfigured cfg env { t with routingManagerHost := host } name client with
    | some client' =>
      obtain ⟨hunused, hclient⟩ := preconfigured_spec hpre
      exact ⟨h'.assign hfull _ hunused, fun _ => ⟨hunused, fun hillegal => absurd hillegal hclient⟩⟩
    | none =>
      obtain ⟨hcons, hindex, hfound⟩ := @autoconfigure_spec mask base k _ cfg env hmask h' hbase client
      cases hauto : autoconfigure cfg env { t with routingManagerHost := host } client with
      | mk t' r =>
        rw [hauto] at hcons hindex hfound
        cases r with
        | none => exact ⟨hcons, fun hne => absurd rfl hne⟩
        | some client' =>
          obtain ⟨hunused', hunused, hconf, hrange⟩ := hfound client' rfl
          have hfull' : t'.maxUsedClientIdsIndex ≠ t'.maxClients.toNat := by
            rw [hcons.maxClients, ← h'.maxClients]
            exact fun heq => hfull (hindex.symm.trans heq)
          refine ⟨hcons.assign hfull' _ hunused', fun hne => ⟨hunused, fun hillegal => ⟨?_, ?_⟩⟩⟩
          · rw [h.clientBase]
            exact hrange hillegal
          · intro a ha heq
            have hmem := cfg.identified a ha (by rw [heq]; exact hne)
            rw [heq] at hmem
            simp [Configuration.isConfiguredClientId, hmem] at hconf

/-- The table at the beginning: the base has the lowest bit set, and the array holds the address
itself. -/
lemma consistent_init {cfg : Configuration} (hmask : LowBits cfg.diagnosisMask k) :
    Consistent cfg.diagnosisMask (autoConfigurationInit cfg).clientBase
        (autoConfigurationInit cfg) ∧
      ((autoConfigurationInit cfg).clientBase &&& ~~~ cfg.diagnosisMask).toNat = 1 := by
  have hfour : 2 ^ 2 ≤ 2 ^ k := Nat.pow_le_pow_right (by decide) hmask.two_le
  have hzero : ((cfg.diagnosisAddress <<< 8) &&& cfg.diagnosisMask).toNat % 2 ^ k = 0 := by
    rw [hmask.toNat_and, Nat.mul_mod_left]
  have hsucc := @LowBits.succ_toNat _ ((cfg.diagnosisAddress <<< 8) &&& cfg.diagnosisMask) k hmask (by
    rw [hmask.toNat_and_not, hzero, hmask.not_mask]
    omega)
  refine ⟨⟨List.nodup_singleton _, ?_, rfl, rfl⟩, ?_⟩
  · change 1 ≤ (~~~ cfg.diagnosisMask).toNat
    rw [hmask.not_mask]
    omega
  · rw [hmask.toNat_and_not]
    exact hsucc.2.trans (by rw [hzero])

end Request

/-- For a diagnosis mask without its lowest bits, at least two, and for any requests and releases of
any applications in any order: along every run, the identifiers in use are pairwise distinct and not
too many, an identifier that is returned was not in use, and one that was found by autoconfiguration
alone lies in the diagnosis range and is not configured for any application. -/
theorem clientIds_unique (cfg : Configuration) (k : ℕ) (hmask : LowBits cfg.diagnosisMask k)
    (as : List ClientIdAction) :
    Runs.Along step (fun t a => (t.step a).used.Nodup ∧
        (t.step a).maxUsedClientIdsIndex ≤ (t.step a).maxClients.toNat ∧
        t.Served cfg.diagnosisMask a)
      (autoConfigurationInit cfg) as := by
  obtain ⟨hinit, hbase⟩ := consistent_init hmask
  refine @Runs.along_of_inv _ _ step
    (Consistent cfg.diagnosisMask (autoConfigurationInit cfg).clientBase) (fun _ _ => True) _
    (fun {t a} h _ => ?_) as _ hinit (Runs.along_of_forall fun _ _ => trivial)
  have hstep : Consistent cfg.diagnosisMask (autoConfigurationInit cfg).clientBase (t.step a) ∧
      t.Served cfg.diagnosisMask a := by
    cases a with
    | request cfg' env name client => exact consistent_request hmask hbase h cfg' env name client
    | release env client => exact ⟨h.releaseClientId env client, trivial⟩
  exact ⟨hstep.1, hstep.1.nodup, hstep.1.index_le, hstep.2⟩

/-- The default mask, the diagnosis address 0x12, and one application with an identifier. -/
def exampleConfiguration : Configuration :=
  (Configuration.ofDiagnosis 0x12 0xFF00 "").loadApplicationData "player" 0x1201

/-- An environment without left-over socket files. -/
def exampleEnv : ClientIdEnv :=
  { ownerDead := false, pid := 1, alive := true, undeletable := fun _ => false }

/-- The configured identifier is left out by autoconfiguration, and a second request continues behind
the first one. -/
theorem clientIds_unique_exampleConfiguration :
    Runs.Along step (fun t a => (t.step a).used.Nodup ∧
        (t.step a).maxUsedClientIdsIndex ≤ (t.step a).maxClients.toNat ∧
        t.Served exampleConfiguration.diagnosisMask a)
      (autoConfigurationInit exampleConfiguration)
      [.request exampleConfiguration exampleEnv "radio" 0,
        .request exampleConfiguration exampleEnv "player" 0x1201, .release exampleEnv 0x1202,
        .request exampleConfiguration exampleEnv "radio" 0] ∧
    (Runs.run step (autoConfigurationInit exampleConfiguration)
      [.request exampleConfiguration exampleEnv "radio" 0,
        .request exampleConfiguration exampleEnv "player" 0x1201, .release exampleEnv 0x1202,
        .request exampleConfiguration exampleEnv "radio" 0]).used = [0x1200, 0x1201, 0x1203] :=
  ⟨clientIds_unique exampleConfiguration 8 ⟨by decide, by decide, by decide⟩ _, by decide⟩

end ClientIdTable

end Vsomeip
