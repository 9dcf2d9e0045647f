import Mathlib.Data.UInt
import Mathlib.Logic.Function.Basic

set_option relaxedAutoImplicit false
set_option autoImplicit false

/-!
# Client identifiers

`utility::request_client_id` and `utility::release_client_id` hand out the client identifiers of the
applications of a host. The identifiers that are in use stand in an array in shared memory, which is
only touched under a mutex, so that the calls of all processes come one after the other.

## Main definitions

* `Vsomeip.Configuration` — what the functions read from the configuration of an application.
* `Vsomeip.ClientIdTable` — `configuration_data_t` and the array behind it.
* `Vsomeip.ClientIdTable.requestClientId`, `Vsomeip.ClientIdTable.releaseClientId` — the functions.
* `Vsomeip.ClientIdTable.checkClientIdConsistency` — what the owner of the mutex does after another
  one has died with it.
-/

namespace Vsomeip

/-- `ILLEGAL_CLIENT`. -/
def illegalClient : UInt16 := 0

/-! ## The configuration -/

/-- The parts of a configuration that matter to client identifiers: `diagnosis_`,
`diagnosis_mask_`, `routing_host_`, the identifiers in `applications_` and
`client_identifiers_`. The identifier of an application is zero if it has none. -/
structure Configuration where
  diagnosisAddress : UInt16
  diagnosisMask : UInt16
  routingHost : String
  applications : List (String × UInt16)
  clientIdentifiers : List UInt16
  identified : ∀ a ∈ applications, a.2 ≠ illegalClient → a.2 ∈ clientIdentifiers

namespace Configuration

/-- `is_configured_client_id`. -/
def isConfiguredClientId (cfg : Configuration) (id : UInt16) : Bool :=
  cfg.clientIdentifiers.contains id

/-- `get_id`. -/
def getId (cfg : Configuration) (name : String) : UInt16 :=
  ((cfg.applications.find? fun a => a.1 == name).map Prod.snd).getD illegalClient

/-- `load_application_data`: a name that is known is ignored, and so is an identifier that another
application has. -/
def loadApplicationData (cfg : Configuration) (name : String) (id : UInt16) : Configuration :=
  if name = "" ∨ (cfg.applications.find? fun a => a.1 == name).isSome then cfg
  else if h : id > 0 ∧ cfg.isConfiguredClientId id = false then
    { cfg with
      applications := cfg.applications ++ [(name, id)]
      clientIdentifiers := cfg.clientIdentifiers ++ [id]
      identified := by
        intro a ha hne
        rcases List.mem_append.mp ha with ha | ha
        · exact List.mem_append_left _ (cfg.identified a ha hne)
        · rw [List.mem_singleton.mp ha]
          exact List.mem_append_right _ List.mem_cons_self }
  else
    { cfg with
      applications := cfg.applications ++ [(name, illegalClient)]
      identified := by
        intro a ha hne
        rcases List.mem_append.mp ha with ha | ha
        · exact cfg.identified a ha hne
        · rw [List.mem_singleton.mp ha] at hne
          exact absurd rfl hne }

/-- A configuration without applications. -/
def ofDiagnosis (diagnosisAddress diagnosisMask : UInt16) (routingHost : String) : Configuration :=
  { diagnosisAddress, diagnosisMask, routingHost, applications := [], clientIdentifiers := [],
    identified := fun _ h => absurd h List.not_mem_nil }

end Configuration

/-! ## The table in shared memory -/

/-- `configuration_data_t` and `used_client_ids__`. -/
structure ClientIdTable where
  pid : ℕ
  clientBase : UInt16
  maxClients : UInt16
  maxUsedClientIdsIndex : ℕ
  maxAssignedClientIdWithoutDiagnosis : UInt16
  routingManagerHost : UInt16
  usedClientIds : ℕ → UInt16

/-- What a call meets outside of the shared memory: whether the last owner of the mutex has died with
it, the process of the caller, whether the process that hosts the routing manager is alive, and
which identifiers have a socket file that cannot be deleted. -/
structure ClientIdEnv where
  ownerDead : Bool
  pid : ℕ
  alive : Bool
  undeletable : UInt16 → Bool

namespace ClientIdTable

/-- `auto_configuration_init` for the first process. The memory is filled with zeros. -/
def autoConfigurationInit (cfg : Configuration) : ClientIdTable :=
  let base : UInt16 := (cfg.diagnosisAddress <<< 8) &&& cfg.diagnosisMask
  { pid := 0, clientBase := base + 1, maxClients := ~~~ cfg.diagnosisMask,
    maxUsedClientIdsIndex := 1, maxAssignedClientIdWithoutDiagnosis := 0, routingManagerHost := 0,
    usedClientIds := Function.update (fun _ => 0) 0 base }

/-- The identifiers that are in use: the array below its index. -/
def used (t : ClientIdTable) : List UInt16 :=
  (List.range t.maxUsedClientIdsIndex).map t.usedClientIds

/-- `is_used_client_id`. -/
def isUsedClientId (t : ClientIdTable) (env : ClientIdEnv) (client : UInt16) : Bool :=
  t.used.contains client || env.undeletable client

/-- The loops that move `n` entries of the array down by one, from offset `i` on. -/
def shiftLoop : ℕ → ℕ → (ℕ → UInt16) → ℕ → UInt16
  | 0, _, memory => memory
  | n + 1, i, memory => shiftLoop n (i + 1) (Function.update memory i (memory (i + 1)))

/-- The entry at offset `i` is removed. -/
def remove (t : ClientIdTable) (i : ℕ) : ClientIdTable :=
  { t with
    usedClientIds := shiftLoop (t.maxUsedClientIdsIndex - 1 - i) i t.usedClientIds
    maxUsedClientIdsIndex := t.maxUsedClientIdsIndex - 1 }

/-- `check_client_id_consistency`: the first entry that is the same as the one before is removed. -/
def checkClientIdConsistency (t : ClientIdTable) : ClientIdTable :=
  match (List.range t.maxUsedClientIdsIndex).find?
      fun i => 1 ≤ i && t.usedClientIds (i - 1) == t.usedClientIds i with
  | some i => t.remove i
  | none => t

/-- Taking the mutex. -/
def lock (t : ClientIdTable) (env : ClientIdEnv) : ClientIdTable :=
  if env.ownerDead then t.checkClientIdConsistency else t

/-- `release_client_id`. -/
def releaseClientId (t : ClientIdTable) (env : ClientIdEnv) (client : UInt16) : ClientIdTable :=
  let t := t.lock env
  match (List.range t.maxUsedClientIdsIndex).find? fun i => t.usedClientIds i == client with
  | some i => t.remove i
  | none => t

/-- `is_bigger_last_assigned_client_id`. -/
def isBiggerLastAssignedClientId (t : ClientIdTable) (client diagnosisMask : UInt16) : Bool :=
  client.toNat >
    (t.clientBase &&& diagnosisMask).toNat + t.maxAssignedClientIdWithoutDiagnosis.toNat

/-- `set_max_assigned_client_id_without_diagnosis`. -/
def setMaxAssignedClientIdWithoutDiagnosis (t : ClientIdTable) (client : UInt16) : ClientIdTable :=
  { t with maxAssignedClientIdWithoutDiagnosis := (client &&& t.maxClients) % t.maxClients }

section Request

variable (cfg : Configuration) (env : ClientIdEnv)

/-- The condition of the loop that looks for an identifier. -/
def skips (t : ClientIdTable) (client : UInt16) : Bool :=
  t.isUsedClientId env client || ! t.isBiggerLastAssignedClientId client cfg.diagnosisMask ||
    cfg.isConfiguredClientId client

/-- The loop that looks for an identifier: the table behind it and what was found. Without an
identifier the loop was left by a return; `none` as a whole says that the fuel has run out. -/
def scan : ℕ → ClientIdTable → UInt16 → ℕ → Option (ClientIdTable × Option UInt16)
  | 0, _, _, _ => none
  | fuel + 1, t, client, increaseCount =>
    if skips cfg env t client then
      if (client &&& t.maxClients).toNat + 1 > t.maxClients.toNat then
        scan fuel { t with maxAssignedClientIdWithoutDiagnosis := 0 } t.clientBase increaseCount
      else if increaseCount + 1 > t.maxClients.toNat then some (t, none)
      else scan fuel t (client + 1) (increaseCount + 1)
    else some (t, some client)

/-- The branch `use_autoconfig`. At least every second round of the loop counts, so that the loop has
ended after twice as many rounds as are counted at most. -/
def autoconfigure (t : ClientIdTable) (client : UInt16) : ClientIdTable × Option UInt16 :=
  let first := if client = illegalClient ∨ t.isUsedClientId env client then t.clientBase else client
  match (scan cfg env (2 * t.maxClients.toNat + 4) t first 0).getD (t, none) with
  | (t', some client') => (t'.setMaxAssignedClientIdWithoutDiagnosis client', some client')
  | (t', none) => (t', none)

/-- The branch for a preconfigured identifier: the identifier that is taken, or nothing if
autoconfiguration has to be used. -/
def preconfigured (t : ClientIdTable) (name : String) (client : UInt16) : Option UInt16 :=
  if name ≠ "" ∧ client ≠ illegalClient then
    let itsPreconfiguredClientId := cfg.getId name
    if itsPreconfiguredClientId ≠ illegalClient then
      if itsPreconfiguredClientId = client then
        if t.isUsedClientId env client then none else some client
      else if ¬ t.isUsedClientId env itsPreconfiguredClientId then some itsPreconfiguredClientId
      else if ¬ t.isUsedClientId env client then some client
      else none
    else none
  else none

/-- The end of `request_client_id`: the identifier is appended to the array, and the application may
become the host of the routing manager. -/
def assign (t : ClientIdTable) (setClientAsManagerHost : Bool) (client : UInt16) : ClientIdTable :=
  let t := if setClientAsManagerHost then { t with routingManagerHost := client, pid := env.pid }
    else t
  { t with
    usedClientIds := Function.update t.usedClientIds t.maxUsedClientIdsIndex client
    maxUsedClientIdsIndex := t.maxUsedClientIdsIndex + 1 }

/-- A routing manager whose process is not alive is forgotten. -/
def takeOver (t : ClientIdTable) (name : String) : ClientIdTable :=
  if (cfg.routingHost = "" ∨ name = cfg.routingHost) ∧ t.pid ≠ 0 ∧ env.pid ≠ t.pid ∧
      env.alive = false then
    { t with routingManagerHost := 0 }
  else t

/-- `request_client_id`: the table afterwards and the identifier. -/
def requestClientId (t : ClientIdTable) (name : String) (client : UInt16) : ClientIdTable × UInt16 :=
  let t := takeOver cfg env (t.lock env) name
  let isHost := cfg.routingHost ≠ "" ∧ cfg.routingHost = name
  if isHost ∧ t.routingManagerHost ≠ 0 then (t, illegalClient)
  else if t.maxUsedClientIdsIndex = t.maxClients.toNat then (t, illegalClient)
  else
    let setClientAsManagerHost := isHost ∨ (cfg.routingHost = "" ∧ t.routingManagerHost = 0)
    match preconfigured cfg env t name client with
    | some client' => (assign env t setClientAsManagerHost client', client')
    | none =>
      match autoconfigure cfg env t client with
      | (t', some client') => (assign env t' setClientAsManagerHost client', client')
      | (t', none) => (t', illegalClient)

end Request

end ClientIdTable

end Vsomeip
