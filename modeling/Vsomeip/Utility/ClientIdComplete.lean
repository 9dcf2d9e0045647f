import Vsomeip.Utility.ClientIdUnique

set_option relaxedAutoImplicit false
set_option autoImplicit false

/-!
# When a client identifier is found

The loop of `utility::request_client_id` that looks for an identifier starts at the base, passes over
everything up to the last assigned identifier, and starts again at the base when it has come to the
end of the diagnosis range, from where on nothing is passed over. It counts how often it has moved on
by one, and gives up when it has done so more often than there are clients; but the first pass has
used up nearly all of that, so that the second pass only gets to the first two identifiers. What is
free between them and the last assigned identifier is not found, although a request that has given
up leaves the table in a state in which the next one finds it.

## Main definitions

* `Vsomeip.ClientIdTable.Free` — an identifier of the diagnosis range that could be assigned.
* `Vsomeip.ClientIdTable.Completes` — a request gets an identifier if it could get one.
* `Vsomeip.ClientIdTable.Reaches` — the loop comes to a free identifier.

## Main results

* `Vsomeip.ClientIdTable.scan_eq_none_iff` — when the loop gives up.
* `Vsomeip.ClientIdTable.completes_iff` — a request completes exactly if the loop comes to a free
  identifier, unless there is none or the table is full.
-/

namespace Vsomeip

namespace ClientIdTable

/-- The table without a last assigned identifier. -/
def restart (t : ClientIdTable) : ClientIdTable :=
  { t with maxAssignedClientIdWithoutDiagnosis := 0 }

/-- An identifier of the diagnosis range that is neither in use nor configured for an application. -/
def Free (cfg : Configuration) (env : ClientIdEnv) (mask : UInt16) (t : ClientIdTable)
    (client : UInt16) : Prop :=
  InRange mask t.clientBase client ∧ t.isUsedClientId env client = false ∧
    cfg.isConfiguredClientId client = false

/-- A request without an identifier is refused only if the table is full or nothing is free, and
otherwise something that was free is assigned. -/
def Completes (cfg : Configuration) (env : ClientIdEnv) (mask : UInt16) (t : ClientIdTable)
    (name : String) : Prop :=
  let result := requestClientId cfg env t name illegalClient
  (result.2 = illegalClient →
    t.maxUsedClientIdsIndex = t.maxClients.toNat ∨ ∀ client, ¬ t.Free cfg env mask client) ∧
  (t.maxUsedClientIdsIndex ≠ t.maxClients.toNat → (∃ client, t.Free cfg env mask client) →
    t.Free cfg env mask result.2 ∧ result.2 ∈ result.1.used)

/-- A free identifier is above the last assigned one, or it is one of the first two. -/
def Reaches (cfg : Configuration) (env : ClientIdEnv) (mask : UInt16) (t : ClientIdTable) : Prop :=
  ∃ client, t.Free cfg env mask client ∧
    (t.isBiggerLastAssignedClientId client cfg.diagnosisMask = true ∨
      (client = t.clientBase ∨ client = t.clientBase + 1) ∧
        t.restart.isBiggerLastAssignedClientId client cfg.diagnosisMask = true)

section Scan

variable {mask : UInt16} {k : ℕ} {t : ClientIdTable} {cfg : Configuration} {env : ClientIdEnv}
  {client : UInt16}

/-- The end of the diagnosis range. -/
lemma LowBits.last_iff (hmask : LowBits mask k) (hmax : t.maxClients = ~~~ mask) (client : UInt16) :
    (client &&& t.maxClients).toNat + 1 > t.maxClients.toNat ↔
      client.toNat % 2 ^ k = 2 ^ k - 1 := by
  have hlt := Nat.mod_lt client.toNat (Nat.two_pow_pos k)
  rw [hmax, hmask.toNat_and_not, hmask.not_mask]
  omega

/-- An identifier of the range is known by its lowest bits. -/
lemma LowBits.eq_of_inRange (hmask : LowBits mask k) {base client client' : UInt16}
    (h : InRange mask base client) (h' : InRange mask base client')
    (hlow : client.toNat % 2 ^ k = client'.toNat % 2 ^ k) : client = client' := by
  rw [hmask.inRange_iff] at h h'
  have hdiv := Nat.div_add_mod client.toNat (2 ^ k)
  have hdiv' := Nat.div_add_mod client'.toNat (2 ^ k)
  rw [← UInt16.toNat_inj, ← hdiv, ← hdiv', hlow, h.1, h'.1]

/-- A round that counts up. -/
lemma LowBits.scan_succ (hmask : LowBits mask k) (hmax : t.maxClients = ~~~ mask) {n fuel : ℕ}
    (hskip : skips cfg env t client = true) (hlow : client.toNat % 2 ^ k < 2 ^ k - 1)
    (hn : n + 1 ≤ 2 ^ k - 1) :
    scan cfg env (fuel + 1) t client n = scan cfg env fuel t (client + 1) (n + 1) := by
  rw [scan, if_pos hskip, if_neg ((hmask.last_iff hmax client).not.mpr (by omega)), if_neg]
  rw [hmax, hmask.not_mask]
  omega

/-- **A pass without success** counts up to the end of the range and starts again.

**Proof sketch.** Induction on the distance to the end. -/
lemma LowBits.scan_wrap (hmask : LowBits mask k) (hmax : t.maxClients = ~~~ mask) {base : UInt16}
    {fuel : ℕ} : ∀ {d : ℕ} {client : UInt16} {n : ℕ}, InRange mask base client →
      client.toNat % 2 ^ k + d = 2 ^ k - 1 → n + d ≤ 2 ^ k - 1 →
      (∀ c, InRange mask base c → client.toNat % 2 ^ k ≤ c.toNat % 2 ^ k →
        skips cfg env t c = true) →
      scan cfg env (fuel + d + 1) t client n = scan cfg env fuel t.restart t.clientBase (n + d)
  | 0, client, n, hclient, hd, _, hskips => by
    have hlast := (hmask.last_iff hmax client).mpr (by omega)
    rw [scan, if_pos (hskips client hclient (Nat.le_refl _)), if_pos hlast]
    rfl
  | d + 1, client, n, hclient, hd, hn, hskips => by
    have hle : (client &&& ~~~ mask).toNat + 1 ≤ (~~~ mask).toNat := by
      rw [hmask.toNat_and_not, hmask.not_mask]
      omega
    have hsucc := hmask.succ_toNat hle
    have hround : scan cfg env (fuel + (d + 1) + 1) t client n =
        scan cfg env (fuel + d + 1) t (client + 1) (n + 1) :=
      hmask.scan_succ hmax (hskips client hclient (Nat.le_refl _)) (by omega) (by omega)
    rw [hround, hmask.scan_wrap hmax (hmask.inRange_succ hclient hle) (by omega) (by omega)
      fun c hc hlow => hskips c hc (by omega), Nat.add_assoc, Nat.add_comm 1 d]

/-- **A pass with success** ends before the end of the range. -/
lemma LowBits.scan_found (hmask : LowBits mask k) (hmax : t.maxClients = ~~~ mask)
    {base target : UInt16} (htarget : InRange mask base target)
    (hfree : skips cfg env t target = false) :
    ∀ {d fuel : ℕ} {client : UInt16} {n : ℕ}, InRange mask base client →
      client.toNat % 2 ^ k + d = target.toNat % 2 ^ k → n + d ≤ 2 ^ k - 1 → d < fuel →
      ∃ found, scan cfg env fuel t client n = some (t, some found)
  | d, 0, _, _, _, _, _, hfuel => absurd hfuel (Nat.not_lt_zero d)
  | 0, fuel + 1, client, n, hclient, hd, _, _ => by
    obtain rfl := hmask.eq_of_inRange hclient htarget (by omega)
    exact ⟨client, by rw [scan, if_neg (by simp [hfree])]⟩
  | d + 1, fuel + 1, client, n, hclient, hd, hn, hfuel => by
    cases hskip : skips cfg env t client with
    | false => exact ⟨client, by rw [scan, if_neg (by simp [hskip])]⟩
    | true =>
      have hlt := Nat.mod_lt target.toNat (Nat.two_pow_pos k)
      have hle : (client &&& ~~~ mask).toNat + 1 ≤ (~~~ mask).toNat := by
        rw [hmask.toNat_and_not, hmask.not_mask]
        omega
      have hsucc := hmask.succ_toNat hle
      rw [hmask.scan_succ hmax hskip (by omega) (by omega)]
      exact hmask.scan_found hmax htarget hfree (d := d) (hmask.inRange_succ hclient hle)
        (by omega) (by omega) (by omega)

/-- When the search does not skip an id. -/
lemma skips_eq_false_iff : skips cfg env t client = false ↔ t.isUsedClientId env client = false ∧
    t.isBiggerLastAssignedClientId client cfg.diagnosisMask = true ∧
    cfg.isConfiguredClientId client = false := by
  rw [skips, Bool.or_eq_false_iff, Bool.or_eq_false_iff, Bool.not_eq_false', and_assoc]

variable {base : UInt16}

/-- The first two identifiers lie in the range. -/
lemma Consistent.inRange_base (hmask : LowBits mask k) (h : Consistent mask base t)
    (hbase : (base &&& ~~~ mask).toNat = 1) :
    (InRange mask t.clientBase t.clientBase ∧ t.clientBase.toNat % 2 ^ k = 1) ∧
    InRange mask t.clientBase (t.clientBase + 1) ∧ (t.clientBase + 1).toNat % 2 ^ k = 2 := by
  have hfour : 2 ^ 2 ≤ 2 ^ k := Nat.pow_le_pow_right (by decide) hmask.two_le
  have hlow := hbase
  rw [hmask.toNat_and_not] at hlow
  rw [h.clientBase]
  have hself : InRange mask base base := ⟨rfl, fun h0 => by simp [h0] at hbase⟩
  have hle : (base &&& ~~~ mask).toNat + 1 ≤ (~~~ mask).toNat := by
    rw [hmask.not_mask]
    omega
  refine ⟨⟨hself, hlow⟩, hmask.inRange_succ hself hle, ?_⟩
  rw [(hmask.succ_toNat hle).2, hlow]

/-- The loop reaches a free identifier if it does not skip one in the first pass, or one of the first
two in the second pass. -/
lemma Consistent.reaches_iff (hmask : LowBits mask k) (h : Consistent mask base t)
    (hbase : (base &&& ~~~ mask).toNat = 1) : t.Reaches cfg env mask ↔
      (∃ c, InRange mask t.clientBase c ∧ skips cfg env t c = false) ∨
        skips cfg env t.restart t.clientBase = false ∨
        skips cfg env t.restart (t.clientBase + 1) = false := by
  obtain ⟨⟨hfirst, -⟩, hsecond, -⟩ := h.inRange_base hmask hbase
  simp only [skips_eq_false_iff]
  constructor
  · rintro ⟨c, ⟨hrange, hused, hconfigured⟩, hbigger | ⟨rfl | rfl, hbigger⟩⟩
    · exact .inl ⟨c, hrange, hused, hbigger, hconfigured⟩
    · exact .inr (.inl ⟨hused, hbigger, hconfigured⟩)
    · exact .inr (.inr ⟨hused, hbigger, hconfigured⟩)
  · rintro (⟨c, hrange, hused, hbigger, hconfigured⟩ | ⟨hused, hbigger, hconfigured⟩ |
      ⟨hused, hbigger, hconfigured⟩)
    · exact ⟨c, ⟨hrange, hused, hconfigured⟩, .inl hbigger⟩
    · exact ⟨_, ⟨hfirst, hused, hconfigured⟩, .inr ⟨.inl rfl, hbigger⟩⟩
    · exact ⟨_, ⟨hsecond, hused, hconfigured⟩, .inr ⟨.inr rfl, hbigger⟩⟩

/-- **The loop gives up** exactly if it does not reach a free identifier.

**Proof sketch.** If the first pass skips the whole range, it has counted to the number of clients less
one, and the second pass can count once more. -/
lemma Consistent.scan_eq_none_iff (hmask : LowBits mask k) (h : Consistent mask base t)
    (hbase : (base &&& ~~~ mask).toNat = 1) {t' : ClientIdTable} {r : Option UInt16}
    (hscan : scan cfg env (2 * t.maxClients.toNat + 4) t t.clientBase 0 = some (t', r)) :
    r = none ↔ ¬ t.Reaches cfg env mask := by
  have hfour : 2 ^ 2 ≤ 2 ^ k := Nat.pow_le_pow_right (by decide) hmask.two_le
  have hmax : t.maxClients.toNat = 2 ^ k - 1 := by rw [h.maxClients, hmask.not_mask]
  obtain ⟨⟨hfirst, hlow⟩, hsecond, hlow'⟩ := h.inRange_base hmask hbase
  rw [h.reaches_iff hmask hbase]
  by_cases hpass : ∃ c, InRange mask t.clientBase c ∧ skips cfg env t c = false
  · obtain ⟨target, htarget, hfree⟩ := hpass
    have hpos := (hmask.inRange_iff.mp htarget).2
    have hlt := Nat.mod_lt target.toNat (Nat.two_pow_pos k)
    obtain ⟨found, hfound⟩ : ∃ found,
        scan cfg env (2 * t.maxClients.toNat + 4) t t.clientBase 0 = some (t, some found) :=
      hmask.scan_found h.maxClients htarget hfree (d := target.toNat % 2 ^ k - 1) hfirst (by omega)
        (by omega) (by omega)
    obtain ⟨-, rfl⟩ := Prod.mk.inj (Option.some.inj (hscan.symm.trans hfound))
    exact iff_of_false (by simp) (not_not.mpr (.inl ⟨target, htarget, hfree⟩))
  · have hskips (c : UInt16) (hc : InRange mask t.clientBase c) : skips cfg env t c = true := by
      by_contra hfree
      exact hpass ⟨c, hc, by simpa using hfree⟩
    rw [or_iff_right hpass]
    obtain ⟨fuel, hfuel⟩ : ∃ fuel, 2 * t.maxClients.toNat + 4 = (fuel + 2) + (2 ^ k - 2) + 1 :=
      ⟨2 ^ k + 1, by omega⟩
    rw [hfuel, hmask.scan_wrap h.maxClients hfirst (by omega) (by omega)
      fun c hc _ => hskips c hc, Nat.zero_add] at hscan
    cases hskip : skips cfg env t.restart t.clientBase with
    | false =>
      rw [scan, if_neg (by simp [hskip])] at hscan
      obtain ⟨-, rfl⟩ := Prod.mk.inj (Option.some.inj hscan)
      simp
    | true =>
      have hmax' : t.restart.maxClients = ~~~ mask := h.maxClients
      rw [hmask.scan_succ hmax' hskip (by omega) (by omega)] at hscan
      cases hskip' : skips cfg env t.restart (t.clientBase + 1) with
      | false =>
        rw [scan, if_neg (by simp [hskip'])] at hscan
        obtain ⟨-, rfl⟩ := Prod.mk.inj (Option.some.inj hscan)
        simp
      | true =>
        rw [scan, if_pos hskip', if_neg ((hmask.last_iff hmax' _).not.mpr (by omega)),
          if_pos (by rw [hmax', hmask.not_mask]; omega)] at hscan
        obtain ⟨-, rfl⟩ := Prod.mk.inj (Option.some.inj hscan)
        simp

end Scan

/-! ## Requests -/

section Request

variable {mask base : UInt16} {k : ℕ} {t : ClientIdTable}

/-- A request that does not come from the routing host, to a table that is not full: either the loop
reaches nothing and the request is refused, or it assigns something that was free. -/
lemma Consistent.requestClientId_spec (hmask : LowBits mask k) (h : Consistent mask base t)
    (hbase : (base &&& ~~~ mask).toNat = 1) (cfg : Configuration) (env : ClientIdEnv) {name : String}
    (hname : ¬ (cfg.routingHost ≠ "" ∧ cfg.routingHost = name))
    (hfull : t.maxUsedClientIdsIndex ≠ t.maxClients.toNat) :
    let result := requestClientId cfg env t name illegalClient
    (¬ t.Reaches cfg env mask ∧ result.2 = illegalClient) ∨
      (t.Reaches cfg env mask ∧ t.Free cfg env mask result.2 ∧ result.2 ∈ result.1.used) := by
  obtain ⟨host, hhost⟩ := takeOver_spec cfg env t name
  set t₁ : ClientIdTable := { t with routingManagerHost := host } with ht₁
  have h₁ : Consistent mask base t₁ := h.of_eq rfl rfl rfl rfl
  have hlow : (t₁.clientBase &&& t₁.maxClients).toNat + 1 ≤ t₁.maxClients.toNat := by
    have hfour : 2 ^ 2 ≤ 2 ^ k := Nat.pow_le_pow_right (by decide) hmask.two_le
    rw [h₁.clientBase, h₁.maxClients, hbase, hmask.not_mask]
    omega
  have hsome : (scan cfg env (2 * t₁.maxClients.toNat + 4) t₁ t₁.clientBase 0).isSome := by
    refine scan_isSome hlow ?_
    split_ifs <;> omega
  obtain ⟨⟨t', r⟩, hscan⟩ := Option.isSome_iff_exists.mp hsome
  have hnone := h₁.scan_eq_none_iff hmask hbase hscan
  obtain ⟨⟨x, rfl⟩, hfound⟩ := scan_spec hscan
  have hpre : preconfigured cfg env t₁ name illegalClient = none := by
    rw [preconfigured, if_neg fun hand => hand.2 rfl]
  simp only [requestClientId, lock_of_nodup env h.nodup, hhost]
  rw [if_neg fun hand => hname hand.1, if_neg hfull, hpre]
  simp only [autoconfigure, true_or, if_true, hscan, Option.getD_some]
  cases r with
  | none => exact .inl ⟨hnone.mp rfl, rfl⟩
  | some found =>
    have hreaches : t₁.Reaches cfg env mask := not_not.mp fun hnot => by cases hnone.mpr hnot
    obtain ⟨hskip, hP⟩ := hfound found rfl
    obtain ⟨hused, -, hconfigured⟩ := skips_eq_false_iff.mp hskip
    have hself : InRange mask t.clientBase t₁.clientBase := (h₁.inRange_base hmask hbase).1.1
    have hrange : InRange mask t.clientBase found := by
      refine hP (InRange mask t.clientBase) hself (fun c hc hle => ?_) hself
      rw [h₁.maxClients] at hle
      exact hmask.inRange_succ hc hle
    refine .inr ⟨hreaches, ⟨hrange, hused, hconfigured⟩, ?_⟩
    change found ∈ (ClientIdTable.assign env _ _ found).used
    rw [used_assign]
    exact List.mem_append_right _ List.mem_cons_self

end Request

/-! ## Main results -/

/-- **A request without an identifier completes** exactly if the loop reaches a free identifier, unless
there is none or the table is full: in every state that is reached by requests and releases, for every
application that is not the routing host. -/
theorem completes_iff (cfg : Configuration) (k : ℕ) (hmask : LowBits cfg.diagnosisMask k)
    (as : List ClientIdAction) (own : Configuration) (env : ClientIdEnv) (name : String)
    (hname : ¬ (own.routingHost ≠ "" ∧ own.routingHost = name)) :
    let t := Runs.run step (autoConfigurationInit cfg) as
    t.Completes own env cfg.diagnosisMask name ↔
      t.maxUsedClientIdsIndex = t.maxClients.toNat ∨
      (∀ client, ¬ t.Free own env cfg.diagnosisMask client) ∨
      t.Reaches own env cfg.diagnosisMask := by
  obtain ⟨hinit, hbase⟩ := consistent_init hmask
  have h : Consistent cfg.diagnosisMask (autoConfigurationInit cfg).clientBase
      (Runs.run step (autoConfigurationInit cfg) as) := by
    refine Runs.inv_run (P := fun _ => True) (fun {t a} h _ => ?_) hinit fun _ _ => trivial
    cases a with
    | request cfg' env' name' client =>
      exact (consistent_request hmask hbase h cfg' env' name' client).1
    | release env' client => exact h.releaseClientId env' client
  intro t
  have hlegal {client : UInt16} (hfree : t.Free own env cfg.diagnosisMask client) :
      client ≠ illegalClient := by
    rintro rfl
    exact hfree.1.2 (by simp [illegalClient])
  by_cases hfull : t.maxUsedClientIdsIndex = t.maxClients.toNat
  · exact iff_of_true ⟨fun _ => .inl hfull, fun hnot => absurd hfull hnot⟩ (.inl hfull)
  · rw [or_iff_right hfull]
    obtain ⟨hnot, hillegal⟩ | ⟨hreaches, hfree, hmem⟩ :=
      h.requestClientId_spec hmask hbase own env hname hfull
    · rw [or_iff_left hnot]
      constructor
      · exact fun hcompletes => (hcompletes.1 hillegal).resolve_left hfull
      · intro hnone
        exact ⟨fun _ => .inr hnone, fun _ ⟨client, hclient⟩ => absurd hclient (hnone client)⟩
    · refine iff_of_true ⟨fun hillegal => ?_, fun _ _ => ⟨hfree, hmem⟩⟩ (.inr hreaches)
      exact absurd hillegal (hlegal hfree)

/-- Seven identifiers, and the last of the range is configured for an application. -/
def smallConfiguration : Configuration :=
  (Configuration.ofDiagnosis 0x12 0xFFF8 "").loadApplicationData "player" 0x1207

/-- Six applications come, and the third of them goes. -/
def smallRun : List ClientIdAction :=
  List.replicate 6 (.request smallConfiguration exampleEnv "radio" 0) ++ [.release exampleEnv 0x1203]

/-- A request that is refused forgets the last assigned identifier, and the next one is served. -/
theorem completes_iff_smallRun :
    (Runs.run step (autoConfigurationInit smallConfiguration)
      (smallRun ++ [.request smallConfiguration exampleEnv "radio" 0])).Completes
      smallConfiguration exampleEnv smallConfiguration.diagnosisMask "radio" :=
  (completes_iff smallConfiguration 3 ⟨by decide, by decide, by decide⟩ _ smallConfiguration exampleEnv
    "radio" (by decide)).mpr (.inr (.inr ⟨0x1203, ⟨⟨by decide, by decide⟩, by decide, by decide⟩,
      .inl (by decide)⟩))

/-- **A request can be refused although there is an identifier.** The table holds six of seven
identifiers, and `0x1203` is free. -/
theorem not_completes_smallRun :
    ¬ ∀ (cfg : Configuration) (k : ℕ), LowBits cfg.diagnosisMask k →
      ∀ (as : List ClientIdAction) (own : Configuration) (env : ClientIdEnv) (name : String),
        ¬ (own.routingHost ≠ "" ∧ own.routingHost = name) →
        (Runs.run step (autoConfigurationInit cfg) as).Completes own env cfg.diagnosisMask name := by
  intro hcompletes
  have h := hcompletes smallConfiguration 3 ⟨by decide, by decide, by decide⟩ smallRun
    smallConfiguration exampleEnv "radio" (by decide)
  have hrefused : (requestClientId smallConfiguration exampleEnv
      (Runs.run step (autoConfigurationInit smallConfiguration) smallRun) "radio"
      illegalClient).2 = illegalClient := by decide
  obtain hfull | hnone := h.1 hrefused
  · exact absurd hfull (by decide)
  · exact hnone 0x1203 ⟨⟨by decide, by decide⟩, by decide, by decide⟩

end ClientIdTable

end Vsomeip
