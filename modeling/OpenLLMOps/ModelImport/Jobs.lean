import OpenLLMOps.ControlPlane.Entities

/-!
# Import jobs

`app/services/model_import_coordinator.py`: the rows of `model_import_jobs` and
`model_assets`, and what the transactions of the cancel route and of a coordinator
make of them. JSON columns are kept as decoded values.

A controlled directory is a root and the id of a job: the code makes every path of
these two (`_job_directory`).
-/

namespace OpenLLMOps.ModelImport

open Framework

inductive ModelSourceType
  | huggingface
  | modelscope
  | manual
  deriving DecidableEq

inductive ModelImportSource
  | huggingface
  | modelscope
  | controlledDirectory
  deriving DecidableEq

inductive ModelImportStatus
  | pending
  | transferring
  | validating
  | ready
  | failed
  | canceling
  | canceled
  deriving DecidableEq

/-- `ACTIVE_IMPORT_STATUSES`. -/
def ModelImportStatus.active : ModelImportStatus → Bool
  | .transferring | .validating | .canceling => true
  | .pending | .ready | .failed | .canceled => false

inductive AssetStatus
  | importing
  | ready
  | failed
  deriving DecidableEq

/-- The roots of the directories: `staging_root`, `staging_root / ".sdk-home"` and `store_root`. -/
inductive Root
  | staging
  | sdkHome
  | store
  deriving DecidableEq

/-- `_job_directory`. -/
structure Directory where
  root : Root
  job : Uuid
  deriving DecidableEq

structure FileDigest where
  path : PyStr
  size : Nat
  sha256 : PyStr
  deriving DecidableEq

/-- `ModelManifest` of the importer. -/
structure ModelManifest where
  modelType : PyStr
  architecture : Option PyStr
  totalSizeBytes : Nat
  fileCount : Nat
  files : List FileDigest
  parameterCount : Option Nat
  weightDtypes : List PyStr
  checksum : Option PyStr
  requestedRevision : Option PyStr
  resolvedRevision : Option PyStr
  deriving DecidableEq

/-- `metadata_json` of an imported asset. -/
structure AssetMetadata where
  importJobId : Uuid
  architecture : Option PyStr
  weightDtypes : List PyStr
  requestedRevision : Option PyStr
  resolvedRevision : Option PyStr
  manifest : ModelManifest
  deriving DecidableEq

/-- A row of `model_assets`. -/
structure ModelAsset where
  name : PyStr
  sourceType : ModelSourceType
  sourceUri : PyStr
  revision : Option PyStr
  localPath : Directory
  modelKind : ModelKind
  format : PyStr
  status : AssetStatus
  family : PyStr
  parameterCount : Option Nat
  sizeBytes : Nat
  checksum : Option PyStr
  errorMessage : Option PyStr
  metadata : AssetMetadata
  deletedAt : Option Time
  deriving DecidableEq

/-- The definition of a job: what `ModelImportCreate` accepts. -/
structure ModelImportCreate where
  name : PyStr
  source : ModelImportSource
  repository : Option PyStr
  revision : Option PyStr
  sourceDirectory : Option PyStr
  modelKind : ModelKind
  deriving DecidableEq

/-- A row of `model_import_jobs`. -/
structure ModelImportJob extends ModelImportCreate where
  status : ModelImportStatus
  progressCompleted : Nat
  progressTotal : Option Nat
  claimedBy : Option PyStr
  claimedAt : Option Time
  cancelRequestedAt : Option Time
  startedAt : Option Time
  finishedAt : Option Time
  resultAssetId : Option Uuid
  manifestJson : Option ModelManifest
  errorMessage : Option PyStr
  deriving DecidableEq

structure ImportDb where
  jobs : Table ModelImportJob
  assets : Table ModelAsset

/-! ## Routes -/

/-- `create_model_import`. -/
def ModelImportCreate.job (payload : ModelImportCreate) : ModelImportJob where
  toModelImportCreate := payload
  status := .pending
  progressCompleted := 0
  progressTotal := none
  claimedBy := none
  claimedAt := none
  cancelRequestedAt := none
  startedAt := none
  finishedAt := none
  resultAssetId := none
  manifestJson := none
  errorMessage := none

namespace ModelImportJob

variable (job : ModelImportJob)

/-- `request_model_import_cancel`: one UPDATE. -/
def requestCancel (now : Time) : ModelImportJob :=
  { job with
    status :=
      match job.status with
      | .pending => .canceled
      | .transferring | .validating => .canceling
      | status => status
    cancelRequestedAt :=
      match job.status with
      | .pending | .transferring | .validating => some now
      | _ => job.cancelRequestedAt
    finishedAt := if job.status = .pending then some now else job.finishedAt }

/-! ## The coordinator -/

/-- `claim_next_model_import` on the job that it has found. -/
def claimed (worker : PyStr) (now : Time) : ModelImportJob :=
  { job with
    status := .transferring
    claimedBy := some worker
    claimedAt := some now
    startedAt := some now
    errorMessage := none }

/-- The status that `_record_progress` writes for a stage. -/
def stageStatus (stage : PyStr) : ModelImportStatus :=
  if stage = py "validating" ∨ stage = py "ready" then .validating else .transferring

/-- `_record_progress` on the row it has read, unless it returns at once. -/
def recordProgress (stage : PyStr) (completed : Int) (total : Option Int) (now : Time) : Option ModelImportJob :=
  if job.status = .ready ∨ job.status = .failed ∨ job.status = .canceled then none
  else
    some { job with
      status := if job.status ≠ .canceling then stageStatus stage else job.status
      progressCompleted := (max 0 completed).toNat
      progressTotal := total.map fun n => (max 0 n).toNat
      claimedAt := some now }

/-- `_mark_failed` on the row it has read, with the redacted error. -/
def markFailed (error : PyStr) (now : Time) : ModelImportJob :=
  if job.status = .canceling then { job with status := .canceled, errorMessage := none, finishedAt := some now }
  else { job with status := .failed, errorMessage := some (error.take 4000), finishedAt := some now }

/-- `_mark_canceled_or_retry` on the row it has read. -/
def markCanceledOrRetry (shuttingDown : Bool) (now : Time) : ModelImportJob :=
  if shuttingDown ∧ job.status ≠ .canceling then
    { job with
      status := .pending
      claimedBy := none
      claimedAt := none
      startedAt := none
      progressCompleted := 0
      progressTotal := none }
  else { job with status := .canceled, finishedAt := some now }

/-- The row after the UPDATE of a transaction that read `job` and made `new` of it. The other
columns are the ones that the three functions above do not change. -/
def updated (new current : ModelImportJob) : ModelImportJob :=
  { current with
    status := overwrite job.status new.status current.status
    progressCompleted := overwrite job.progressCompleted new.progressCompleted current.progressCompleted
    progressTotal := overwrite job.progressTotal new.progressTotal current.progressTotal
    claimedBy := overwrite job.claimedBy new.claimedBy current.claimedBy
    claimedAt := overwrite job.claimedAt new.claimedAt current.claimedAt
    startedAt := overwrite job.startedAt new.startedAt current.startedAt
    finishedAt := overwrite job.finishedAt new.finishedAt current.finishedAt
    errorMessage := overwrite job.errorMessage new.errorMessage current.errorMessage }

/-- The UPDATE of `_heartbeat_active_jobs`. -/
def heartbeat (worker : PyStr) (now : Time) : ModelImportJob :=
  if job.claimedBy = some worker ∧ job.status.active then { job with claimedAt := some now } else job

/-- The job is one that `recover_stale_model_imports` takes: its claim is older than the timeout, and
not the recovering worker's. -/
def stale (worker : PyStr) (timeout now : Time) : Bool :=
  job.status.active && job.claimedAt.all (· + timeout < now) && job.claimedBy.all (· ≠ worker)

/-- The job after its directories have been removed. -/
def released (now : Time) : ModelImportJob :=
  if job.status = .canceling then
    { job with
      status := .canceled
      finishedAt := some now
      claimedBy := none
      claimedAt := none
      errorMessage := none }
  else
    { job with
      status := .pending
      startedAt := none
      finishedAt := none
      progressCompleted := 0
      progressTotal := none
      cancelRequestedAt := none
      claimedBy := none
      claimedAt := none
      errorMessage := none }

end ModelImportJob

/-- An `OSError` of the removal: the roots whose directory is gone, and the exception's name. -/
structure RemovalFault where
  removed : List Root
  name : PyStr
  deriving DecidableEq

/-- The body of the loop of `recover_stale_model_imports`, for the job `id`: the job, and the roots
whose directory has been removed. -/
def recoverJob (assets : Table ModelAsset) (id : Uuid) (job : ModelImportJob) (now : Time)
    (fault : Option RemovalFault) : ModelImportJob × List Root :=
  match job.resultAssetId with
  | some assetId =>
    let size := (assets.lookup assetId).map (·.sizeBytes)
    ({ job with
        status := .ready
        finishedAt := some now
        errorMessage := none
        progressCompleted := size.getD job.progressCompleted
        progressTotal := size.or job.progressTotal }, [])
  | none =>
    if assets.entries.any (·.2.localPath = ⟨.store, id⟩) then
      ({ job with
          status := .failed
          finishedAt := some now
          errorMessage := some (py "恢复中发现最终目录已关联其他模型资产，请人工检查") }, [])
    else
      match fault with
      | some fault =>
        ({ job with
            status := .failed
            finishedAt := some now
            errorMessage := some (py "清理中断导入目录失败：" ++ fault.name) }, fault.removed)
      | none => (job.released now, [.staging, .sdkHome, .store])

/-- The source type of an imported asset. -/
def ModelImportSource.sourceType : ModelImportSource → ModelSourceType
  | .huggingface => .huggingface
  | .modelscope => .modelscope
  | .controlledDirectory => .manual

/-- The asset that `_finalize_ready` creates. -/
def importedAsset (id : Uuid) (job : ModelImportJob) (finalPath : Directory) (manifest : ModelManifest) : ModelAsset where
  name := job.name
  sourceType := job.source.sourceType
  sourceUri := orEmpty job.repository (py "inbox://" ++ orEmpty job.sourceDirectory (py "unknown"))
  revision := manifest.resolvedRevision
  localPath := finalPath
  modelKind := job.modelKind
  format := py "safetensors"
  status := .ready
  family := manifest.modelType
  parameterCount := manifest.parameterCount
  sizeBytes := manifest.totalSizeBytes
  checksum := manifest.checksum
  errorMessage := none
  metadata :=
    ⟨id, manifest.architecture, manifest.weightDtypes, manifest.requestedRevision, manifest.resolvedRevision, manifest⟩
  deletedAt := none
where
  /-- `value or default`. -/
  orEmpty (value : Option PyStr) (default : PyStr) : PyStr :=
    match value with
    | none | some [] => default
    | some s => s

/-- `_finalize_ready`, with the id of the new asset; an error is the text of an exception. -/
def finalizeReady (id assetId : Uuid) (finalPath : Directory) (manifest : ModelManifest) (now : Time) (db : ImportDb) :
    Except PyStr ImportDb :=
  if finalPath ≠ ⟨.store, id⟩ then .error (py "模型导入 worker 返回了受控仓库之外的最终路径")
  else
    match db.jobs.lookup id with
    | none => .error (py "模型导入任务在完成前被删除")
    | some job =>
      if job.source ≠ .controlledDirectory ∧ manifest.requestedRevision ≠ job.revision then
        .error (py "模型导入 worker 返回的 requested revision 与任务不一致")
      else if job.source ≠ .controlledDirectory ∧ manifest.resolvedRevision.getD [] = [] then
        .error (py "在线模型导入缺少 resolved commit，拒绝创建不可复现资产")
      -- the unique constraint of `local_path`
      else if db.assets.entries.any (·.2.localPath = finalPath) then .error (py "IntegrityError")
      else
        .ok
          { jobs := db.jobs.insert id
              { job with
                resultAssetId := some assetId
                manifestJson := some manifest
                status := .ready
                progressCompleted := manifest.totalSizeBytes
                progressTotal := some manifest.totalSizeBytes
                finishedAt := some now
                errorMessage := none }
            assets := db.assets.insert assetId (importedAsset id job finalPath manifest) }

end OpenLLMOps.ModelImport
