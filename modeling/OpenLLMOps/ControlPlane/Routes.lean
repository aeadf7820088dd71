import OpenLLMOps.ControlPlane.Leases
import OpenLLMOps.AgentContract

/-!
# Routes that change workloads

`api/routes/deployments.py`, `training_jobs.py` and `evaluations.py`. What a
route makes of the row it has read is a function of the row (`startedRow`,
`stoppedRow`, `terminatedJob`, `cancelledJob`); the route looks the row up,
checks it and commits. Each route is a function from the database to the
database or to the HTTP error, with which nothing is committed.

Assets, datasets and files are outside the model: what a route learns from them
is an argument. Lifecycle fields of a request (`now`, the fresh id) are
arguments too.
-/

namespace OpenLLMOps

open Framework Vllm

/-- An `HTTPException`. -/
structure HttpError where
  statusCode : Nat
  detail : PyStr
  deriving DecidableEq

/-- An exception that no handler turns into a response of its own. -/
def internalServerError : HttpError := ⟨500, py "Internal Server Error"⟩

/-- The settings that the control plane's transactions read. -/
structure Settings where
  gpuCount : Nat
  gpuLeaseTtl : Time

/-- The columns of a `ModelAsset` that `create_deployment` reads. -/
structure ModelAsset where
  ready : Bool
  modelKind : ModelKind

/-- `str` of a list of GPU numbers. -/
def gpuListText (gpuIds : List Nat) : PyStr :=
  py "[" ++ (py ", ").intercalate (gpuIds.map decimal) ++ py "]"

/-- `_validate_gpu_ids`. -/
def validateGpuIds (cfg : Settings) (gpuIds : List Nat) : Except HttpError Unit :=
  let invalid := gpuIds.filter (cfg.gpuCount ≤ ·)
  if invalid ≠ [] then .error ⟨422, py "GPU 编号超出本机范围：" ++ gpuListText invalid⟩ else .ok ()

/-! ## Deployments -/

/-- The unique constraints of `deployments`, for the row `id`. -/
def deploymentConflict (db : Db) (id : Uuid) (d : Deployment) : Bool :=
  db.deployments.entries.any fun e =>
    e.1 ≠ id && (e.2.name = d.name || e.2.servedModelName = d.servedModelName)

/-- `create_deployment`, with `asset` the answer of `get_active_model_asset`. -/
def createDeployment (cfg : Settings) (id : Uuid) (payload : DeploymentCreate)
    (asset : Except HttpError ModelAsset) (now : Time) (db : Db) : Except HttpError Db := do
  validateGpuIds cfg payload.gpuIds
  let asset ← asset
  if ¬ asset.ready then .error ⟨422, py "模型资产尚未就绪"⟩
  else if payload.taskType = .embedding ∧ asset.modelKind ≠ .embedding then
    .error ⟨422, py "Embedding 部署必须选择 embedding 模型"⟩
  else if payload.taskType = .generate ∧ asset.modelKind = .embedding then
    .error ⟨422, py "生成部署不能选择 embedding 模型"⟩
  else
    let deployment := payload.row now
    if (db.deployments.lookup id).isSome ∨ deploymentConflict db id deployment then
      .error ⟨409, py "部署名称或对外模型名已被占用"⟩
    else .ok (db.put id (.deployment deployment))

/-- `start_deployment` on the row it has read. -/
def startedRow (now : Time) (d : Deployment) : Deployment :=
  match d.actualState with
  | .running | .starting | .queued => { d with desiredState := .running }
  | .created | .stopping | .stopped | .failed =>
    { d with
      desiredState := .running
      actualState := .queued
      queuedAt := some now
      internalUrl := none
      healthStatus := none
      startedAt := none
      errorMessage := none
      stateVersion := d.stateVersion + 1 }

/-- `start_deployment`. -/
def startDeployment (id : Uuid) (now : Time) (db : Db) : Except HttpError Db :=
  match db.deployments.lookup id with
  | none => .error ⟨404, py "部署不存在"⟩
  | some d => .ok (db.put id (.deployment (startedRow now d)))

/-- `stop_deployment` on the row it has read. -/
def stoppedRow (d : Deployment) : Deployment :=
  match d.actualState with
  | .created | .queued | .failed =>
    { d with
      desiredState := .stopped
      actualState := .stopped
      queuedAt := none
      internalUrl := none
      healthStatus := none
      stateVersion := d.stateVersion + 1 }
  | .stopped | .stopping => { d with desiredState := .stopped, stateVersion := d.stateVersion + 1 }
  | .starting | .running =>
    { d with desiredState := .stopped, actualState := .stopping, stateVersion := d.stateVersion + 1 }

/-- `stop_deployment`. -/
def stopDeployment (id : Uuid) (db : Db) : Except HttpError Db :=
  match db.deployments.lookup id with
  | none => .error ⟨404, py "部署不存在"⟩
  | some d => .ok (db.put id (.deployment (stoppedRow d)))

/-- `update_deployment` on the row it has read. An explicit null of `gpu_ids` raises a
`TypeError`; a null name violates the column's constraint at the commit. -/
def updatedRow (cfg : Settings) (payload : DeploymentUpdate) (d : Deployment) : Except HttpError Deployment :=
  if ¬ d.actualState.terminal then .error ⟨409, py "仅停止或失败的部署可以编辑"⟩
  else match payload.gpuIds.getD (some d.gpuIds) with
  | none => .error internalServerError
  | some finalGpuIds => do
    validateGpuIds cfg finalGpuIds
    match payload.tensorParallelSize.getD (some d.tensorParallelSize), payload.name.getD (some d.name) with
    | some finalTp, name =>
      if finalGpuIds.length ≠ finalTp then .error ⟨422, py "tensor_parallel_size 必须等于所选 GPU 数量"⟩
      else match name with
      | none => .error ⟨409, py "部署名称已被占用"⟩
      | some name =>
        .ok { d with
          name := name
          gpuIds := finalGpuIds
          tensorParallelSize := finalTp
          simplifiedConfig := payload.simplifiedConfig.elim d.simplifiedConfig fun c =>
            c.elim .null fun c => .obj (c.1.modelDump.filter (·.1 ∈ c.2))
          vllmArgs := payload.vllmArgs.elim d.vllmArgs fun args => args.elim .null .obj
          stateVersion := d.stateVersion + 1 }
    | none, _ => .error ⟨422, py "tensor_parallel_size 必须等于所选 GPU 数量"⟩

/-- `update_deployment`. -/
def updateDeployment (cfg : Settings) (id : Uuid) (payload : DeploymentUpdate) (db : Db) : Except HttpError Db :=
  match db.deployments.lookup id with
  | none => .error ⟨404, py "部署不存在"⟩
  | some d => do
    let d ← updatedRow cfg payload d
    if deploymentConflict db id d then .error ⟨409, py "部署名称已被占用"⟩
    else .ok (db.put id (.deployment d))

/-! ## Jobs -/

/-- A new job: the columns that `create_training_job` and `create_evaluation_run` set. -/
def newJob (name : PyStr) (gpuIds : List Nat) (now : Time) : JobColumns where
  name := name
  desiredState := .running
  actualState := .queued
  gpuIds := gpuIds
  errorMessage := none
  queuedAt := some now
  createdAt := now
  stateVersion := 1
  runtimeGeneration := 0
  startedAt := none
  finishedAt := none

/-- The fields of `TrainingJobCreate` and `EvaluationRunCreate` that scheduling depends on. -/
structure JobCreate where
  name : PyStr
  gpuIds : List Nat

/-- The field constraints and the GPU check of the two schemas. -/
def JobCreate.accepted (p : JobCreate) : Bool :=
  1 ≤ p.name.length && p.name.length ≤ 128 && p.name.encodable && 1 ≤ p.gpuIds.length &&
    p.gpuIds.length ≤ 16 && p.gpuIds.Nodup

/-- A payload that its schema accepts. -/
structure AcceptedJob extends JobCreate where
  accepted : toJobCreate.accepted = true

/-- `create_training_job`, with `checks` the outcome of the checks of the asset, the
dataset and `build_training_execution`. -/
def createTrainingJob (cfg : Settings) (id : Uuid) (payload : JobCreate) (checks : Except HttpError Unit)
    (now : Time) (db : Db) : Except HttpError Db := do
  validateGpuIds cfg payload.gpuIds
  checks
  if (db.trainingJobs.lookup id).isSome ∨ db.trainingJobs.entries.any (fun e => e.2.name = payload.name) then
    .error ⟨409, py "训练任务名称已存在"⟩
  else
    .ok (db.put id (.training
      { newJob payload.name payload.gpuIds now with
        progress := .finite false 0 0
        currentStep := none
        totalSteps := none
        metrics := .obj []
        checkpointPath := none
        adapterPath := none
        mergedModelPath := none }))

/-- `create_evaluation_run`, with `checks` the outcome of the checks of the assets, the
dataset and `build_evaluation_execution`. -/
def createEvaluationRun (cfg : Settings) (id : Uuid) (payload : JobCreate) (checks : Except HttpError Unit)
    (now : Time) (db : Db) : Except HttpError Db := do
  validateGpuIds cfg payload.gpuIds
  checks
  if (db.evaluationRuns.lookup id).isSome ∨ db.evaluationRuns.entries.any (fun e => e.2.name = payload.name) then
    .error ⟨409, py "评测任务名称已存在"⟩
  else
    .ok (db.put id (.evaluation
      { newJob payload.name payload.gpuIds now with
        metrics := .obj []
        comparison := .obj []
        resultPath := none
        datasetManifestPath := none
        warnings := [] }))

/-- The state changes of `cancel_evaluation_run`, and of `terminate_training_job` on a
job that it does not answer at once. -/
def cancelledJob (now : Time) (j : JobColumns) : JobColumns :=
  match j.actualState with
  | .created | .queued =>
    { j with
      desiredState := .terminated
      actualState := .canceled
      queuedAt := none
      finishedAt := some now
      stateVersion := j.stateVersion + 1 }
  | .starting | .running =>
    { j with desiredState := .terminated, actualState := .canceling, stateVersion := j.stateVersion + 1 }
  | .canceling | .canceled | .succeeded | .failed =>
    { j with desiredState := .terminated, stateVersion := j.stateVersion + 1 }

/-- `terminate_training_job` on the row it has locked: nothing changes on a job that has
ended or is being terminated. -/
def terminatedJob (now : Time) (j : JobColumns) : JobColumns :=
  if j.actualState.terminal ∨ (j.desiredState = .terminated ∧ j.actualState = .canceling) then j
  else cancelledJob now j

/-- `terminate_training_job`. -/
def terminateTrainingJob (id : Uuid) (now : Time) (db : Db) : Except HttpError Db :=
  match db.trainingJobs.lookup id with
  | none => .error ⟨404, py "训练任务不存在"⟩
  | some j => .ok (db.put id (.training { j with toJobColumns := terminatedJob now j.toJobColumns }))

/-- `cancel_evaluation_run`. -/
def cancelEvaluationRun (id : Uuid) (now : Time) (db : Db) : Except HttpError Db :=
  match db.evaluationRuns.lookup id with
  | none => .error ⟨404, py "评测任务不存在"⟩
  | some r => .ok (db.put id (.evaluation { r with toJobColumns := cancelledJob now r.toJobColumns }))

/-! ## Deletion -/

/-- The generation that commands about a row carry: `runtime_generation or state_version`. -/
def Row.commandGeneration (r : Row) : Nat :=
  if r.runtimeGeneration = 0 then r.stateVersion else r.runtimeGeneration

/-- The cleanup command of `confirm_absent_and_release_leases`. -/
def cleanupCommand (k : OwnerKey) (row : Row) : AgentCommand :=
  ⟨.stop, ⟨k.type, k.id, row.name, row.commandGeneration⟩, row.gpuIds, .cleanupTerminal⟩

/-- `confirm_absent_and_release_leases`. The answer is `none` if the agent did not answer. -/
def confirmAbsentAndReleaseLeases (k : OwnerKey) (row : Row) (answer : Option AgentCommandResponse)
    (db : Db) : Except HttpError Db :=
  if row.commandGeneration < 1 then .error ⟨409, py "运行代次无效，拒绝清理"⟩
  else match answer with
  | none => .error ⟨503, py "node-agent 响应不确定，已保留记录与 GPU 租约"⟩
  | some response =>
    if ¬ response.accepted ∨ response.observedState ≠ .absent then
      .error ⟨409, py "node-agent 尚未确认容器 absent：" ++
        orText response.message (orText response.errorCode response.observedState.value)⟩
    else .ok { db with gpuLeases := releaseAll k db.gpuLeases }

/-- The three delete routes, with `agent` none when no agent is configured. -/
def deleteWorkload (notFound notTerminal : PyStr) (k : OwnerKey) (agent : Option (Option AgentCommandResponse))
    (db : Db) : Except HttpError Db :=
  match db.getRow k with
  | none => .error ⟨404, notFound⟩
  | some row =>
    if ¬ row.isTerminal then .error ⟨409, notTerminal⟩
    else match agent with
    | none => .error ⟨503, py "未配置 node-agent HMAC 密钥，无法确认容器 absent"⟩
    | some answer => do
      let db ← confirmAbsentAndReleaseLeases k row answer db
      .ok (db.delete k)

/-- `delete_deployment`. -/
def deleteDeployment (id : Uuid) : Option (Option AgentCommandResponse) → Db → Except HttpError Db :=
  deleteWorkload (py "部署不存在") (py "请先停止部署再删除") ⟨.deployment, id⟩

/-- `delete_training_job`. -/
def deleteTrainingJob (id : Uuid) : Option (Option AgentCommandResponse) → Db → Except HttpError Db :=
  deleteWorkload (py "训练任务不存在") (py "只能删除已结束的训练任务") ⟨.training, id⟩

/-- `delete_evaluation_run`. -/
def deleteEvaluationRun (id : Uuid) : Option (Option AgentCommandResponse) → Db → Except HttpError Db :=
  deleteWorkload (py "评测任务不存在") (py "只能删除已结束的评测任务") ⟨.evaluation, id⟩

end OpenLLMOps
