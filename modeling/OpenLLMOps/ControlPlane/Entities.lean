import Mathlib.Data.List.AList
import OpenLLMOps.Framework.Json.Value

/-!
# Rows of the control plane's database

The tables that scheduling reads and writes (`app/models/entities.py`,
`app/models/enums.py`): deployments, training jobs, evaluation runs and GPU
leases. A table is a finite map from ids to rows. Columns that no modelled
function reads or writes (`model_asset_id` of a job, `revision`, …) are left
out; the two JSON columns of a deployment are kept as decoded values.

`GPU` numbers are naturals: every schema that accepts a list of them rejects
negative ones.
-/

namespace OpenLLMOps

open Framework

/-- Microseconds since the epoch. -/
abbrev Time := Nat

/-- A UUID. Its canonical string orders like the number. -/
abbrev Uuid := Nat

/-- A table: rows by primary key. -/
abbrev Table (Row : Type) := AList fun _ : Uuid => Row

inductive ModelKind
  | base
  | instruct
  | embedding
  deriving DecidableEq

inductive LeaseOwnerType
  | deployment
  | training
  | evaluation
  deriving DecidableEq

inductive DeploymentTaskType
  | generate
  | embedding
  deriving DecidableEq

inductive DesiredServiceState
  | running
  | stopped
  deriving DecidableEq

inductive DeploymentState
  | created
  | queued
  | starting
  | running
  | stopping
  | stopped
  | failed
  deriving DecidableEq

inductive DesiredJobState
  | running
  | terminated
  deriving DecidableEq

inductive JobState
  | created
  | queued
  | starting
  | running
  | canceling
  | canceled
  | succeeded
  | failed
  deriving DecidableEq

/-- `DEPLOYMENT_HEALTH_STATUSES` of the reconciler. -/
inductive HealthStatus
  | starting
  | healthy
  | unhealthy
  deriving DecidableEq

/-- A row of `deployments`. `simplified_config` and `vllm_args` are JSON columns. -/
structure Deployment where
  name : PyStr
  servedModelName : PyStr
  modelAssetId : Uuid
  taskType : DeploymentTaskType
  desiredState : DesiredServiceState
  actualState : DeploymentState
  gpuIds : List Nat
  tensorParallelSize : Nat
  port : Option Int
  internalUrl : Option PyStr
  simplifiedConfig : Json
  vllmArgs : Json
  healthStatus : Option HealthStatus
  startedAt : Option Time
  errorMessage : Option PyStr
  queuedAt : Option Time
  createdAt : Time
  stateVersion : Nat
  runtimeGeneration : Nat
  deriving DecidableEq

/-- The columns that `training_jobs` and `evaluation_runs` share. -/
structure JobColumns where
  name : PyStr
  desiredState : DesiredJobState
  actualState : JobState
  gpuIds : List Nat
  errorMessage : Option PyStr
  queuedAt : Option Time
  createdAt : Time
  stateVersion : Nat
  runtimeGeneration : Nat
  startedAt : Option Time
  finishedAt : Option Time
  deriving DecidableEq

/-- A row of `training_jobs`: the columns that observations write. -/
structure TrainingJob extends JobColumns where
  progress : PyFloat
  currentStep : Option Int
  totalSteps : Option Int
  metrics : Json
  checkpointPath : Option PyStr
  adapterPath : Option PyStr
  mergedModelPath : Option PyStr
  deriving DecidableEq

/-- A row of `evaluation_runs`: the columns that observations write. -/
structure EvaluationRun extends JobColumns where
  metrics : Json
  comparison : Json
  resultPath : Option PyStr
  datasetManifestPath : Option PyStr
  warnings : List PyStr
  deriving DecidableEq

/-- The key of a workload: the table its row is in and its id. -/
structure OwnerKey where
  type : LeaseOwnerType
  id : Uuid
  deriving DecidableEq

/-- `gpu_scheduler.LeaseOwner`. -/
structure LeaseOwner where
  type : LeaseOwnerType
  id : Uuid
  name : PyStr
  generation : Nat
  deriving DecidableEq

def LeaseOwner.key (o : LeaseOwner) : OwnerKey := ⟨o.type, o.id⟩

/-- A row of `gpu_leases`. -/
structure GPULease where
  gpuIndex : Nat
  leaseGroupId : Uuid
  ownerType : LeaseOwnerType
  ownerId : Uuid
  ownerName : PyStr
  generation : Nat
  acquiredAt : Time
  heartbeatAt : Time
  expiresAt : Time
  deriving DecidableEq

def GPULease.key (l : GPULease) : OwnerKey := ⟨l.ownerType, l.ownerId⟩

/-- `_get_row` returns a row of the table that the owner's type names. -/
inductive Row
  | deployment (d : Deployment)
  | training (j : TrainingJob)
  | evaluation (r : EvaluationRun)
  deriving DecidableEq

namespace Row

def name : Row → PyStr
  | .deployment d => d.name
  | .training j => j.name
  | .evaluation r => r.name

def gpuIds : Row → List Nat
  | .deployment d => d.gpuIds
  | .training j => j.gpuIds
  | .evaluation r => r.gpuIds

def stateVersion : Row → Nat
  | .deployment d => d.stateVersion
  | .training j => j.stateVersion
  | .evaluation r => r.stateVersion

def runtimeGeneration : Row → Nat
  | .deployment d => d.runtimeGeneration
  | .training j => j.runtimeGeneration
  | .evaluation r => r.runtimeGeneration

def queuedAt : Row → Option Time
  | .deployment d => d.queuedAt
  | .training j => j.queuedAt
  | .evaluation r => r.queuedAt

def createdAt : Row → Time
  | .deployment d => d.createdAt
  | .training j => j.createdAt
  | .evaluation r => r.createdAt

def errorMessage : Row → Option PyStr
  | .deployment d => d.errorMessage
  | .training j => j.errorMessage
  | .evaluation r => r.errorMessage

end Row

/-- `ACTIVE_DEPLOYMENT_STATES`. -/
def DeploymentState.active : DeploymentState → Bool
  | .starting | .running | .stopping => true
  | _ => false

/-- `TERMINAL_DEPLOYMENT_STATES` of the reconciler and `EDITABLE_STATES` of the routes. -/
def DeploymentState.terminal : DeploymentState → Bool
  | .created | .stopped | .failed => true
  | _ => false

/-- `ACTIVE_JOB_STATES`. -/
def JobState.active : JobState → Bool
  | .starting | .running | .canceling => true
  | _ => false

/-- `TERMINAL_JOB_STATES`. -/
def JobState.terminal : JobState → Bool
  | .canceled | .succeeded | .failed => true
  | _ => false

namespace Row

def queued : Row → Bool
  | .deployment d => d.actualState = .queued
  | .training j => j.actualState = .queued
  | .evaluation r => r.actualState = .queued

def active : Row → Bool
  | .deployment d => d.actualState.active
  | .training j => j.actualState.active
  | .evaluation r => r.actualState.active

/-- `StateReconciler._is_terminal`. -/
def isTerminal : Row → Bool
  | .deployment d => d.actualState.terminal
  | .training j => j.actualState.terminal
  | .evaluation r => r.actualState.terminal

/-- The row's desired state is `running`. -/
def desiresRunning : Row → Bool
  | .deployment d => d.desiredState = .running
  | .training j => j.desiredState = .running
  | .evaluation r => r.desiredState = .running

theorem active_not_queued {r : Row} (h : r.active = true) : r.queued = false := by
  cases r <;> simp only [active, queued, decide_eq_false_iff_not] at h ⊢ <;> intro e <;> simp [e,
    DeploymentState.active, JobState.active] at h

theorem active_not_terminal {r : Row} (h : r.active = true) : r.isTerminal = false := by
  rcases r with d | j | e
  · simp only [active, isTerminal] at h ⊢
    revert h; cases d.actualState <;> decide
  · simp only [active, isTerminal] at h ⊢
    revert h; cases j.actualState <;> decide
  · simp only [active, isTerminal] at h ⊢
    revert h; cases e.actualState <;> decide

end Row

/-! ## The database -/

/-- The value of a column after an UPDATE of a row that was read as `read`: it is written if it has
changed. -/
def overwrite {α : Type} [DecidableEq α] (read new current : α) : α := if new = read then current else new

theorem overwrite_of_unchanged {α : Type} [DecidableEq α] (read current : α) : overwrite read read current = current :=
  if_pos rfl

/-- The tables, as one committed state. -/
structure Db where
  deployments : Table Deployment
  trainingJobs : Table TrainingJob
  evaluationRuns : Table EvaluationRun
  gpuLeases : List GPULease

namespace Db

/-- A database without rows. -/
def empty : Db := ⟨∅, ∅, ∅, []⟩

/-- `StateReconciler._get_row`. -/
def getRow (db : Db) (k : OwnerKey) : Option Row :=
  match k.type with
  | .deployment => (db.deployments.lookup k.id).map .deployment
  | .training => (db.trainingJobs.lookup k.id).map .training
  | .evaluation => (db.evaluationRuns.lookup k.id).map .evaluation

/-- Inserting or updating the row `r` with id `id`. -/
def put (db : Db) (id : Uuid) : Row → Db
  | .deployment d => { db with deployments := db.deployments.insert id d }
  | .training j => { db with trainingJobs := db.trainingJobs.insert id j }
  | .evaluation r => { db with evaluationRuns := db.evaluationRuns.insert id r }

/-- Deleting a row. -/
def delete (db : Db) (k : OwnerKey) : Db :=
  match k.type with
  | .deployment => { db with deployments := db.deployments.erase k.id }
  | .training => { db with trainingJobs := db.trainingJobs.erase k.id }
  | .evaluation => { db with evaluationRuns := db.evaluationRuns.erase k.id }

/-- The leases of an owner, of every generation. -/
def leasesOf (db : Db) (k : OwnerKey) : List GPULease := db.gpuLeases.filter (·.key = k)

end Db

/-- The table of a row. -/
def Row.ownerType : Row → LeaseOwnerType
  | .deployment _ => .deployment
  | .training _ => .training
  | .evaluation _ => .evaluation

namespace Db

variable (db : Db)

theorem ownerType_of_getRow {k : OwnerKey} {r : Row} (h : db.getRow k = some r) : r.ownerType = k.type := by
  unfold getRow at h
  split at h <;> rename_i hk <;> obtain ⟨x, -, rfl⟩ := Option.map_eq_some_iff.mp h <;> rw [hk] <;> rfl

@[simp] theorem gpuLeases_put (id : Uuid) (r : Row) : (db.put id r).gpuLeases = db.gpuLeases := by
  cases r <;> rfl

@[simp] theorem gpuLeases_delete (k : OwnerKey) : (db.delete k).gpuLeases = db.gpuLeases := by
  unfold delete; split <;> rfl

@[simp] theorem getRow_withLeases (ls : List GPULease) (k : OwnerKey) :
    ({ db with gpuLeases := ls } : Db).getRow k = db.getRow k := rfl

theorem getRow_put (id : Uuid) (r : Row) (k : OwnerKey) :
    (db.put id r).getRow k = if k = ⟨r.ownerType, id⟩ then some r else db.getRow k := by
  obtain ⟨t, i⟩ := k
  by_cases hi : i = id
  · subst hi
    cases r <;> cases t <;> simp [put, getRow, Row.ownerType]
  · cases r <;> cases t <;> simp [put, getRow, Row.ownerType, hi, AList.lookup_insert_ne]

theorem getRow_delete (k k' : OwnerKey) :
    (db.delete k).getRow k' = if k' = k then none else db.getRow k' := by
  obtain ⟨t, i⟩ := k
  obtain ⟨t', i'⟩ := k'
  by_cases hi : i' = i
  · subst hi
    cases t <;> cases t' <;> simp [delete, getRow]
  · cases t <;> cases t' <;> simp [delete, getRow, hi, AList.lookup_erase_ne]

end Db

end OpenLLMOps
