import OpenLLMOps.ControlPlane.Routes

/-!
# The reconciler's transactions

`services/reconciler.py`: the snapshots of active workloads, the FIFO claim, and
what an answer of the agent does to its row and to the leases. Every function
is one transaction on the database; an exception that is not handled inside it
(`RoundError`) commits nothing and ends the round.

Files and JSON metadata are checked by `training_control.py` and
`evaluation_control.py`; the outcome of such a check is an argument
(`Outcome`).
-/

namespace OpenLLMOps

open Framework Vllm

/-- The outcome of a check: a value, a `TrainingControlError` or
`EvaluationControlError`, or another exception. -/
inductive Outcome (α : Type)
  | ok (a : α)
  | control (message : PyStr)
  | escape

/-- An exception that leaves `run_once`. -/
inductive RoundError
  /-- `try_acquire_locked` raised. -/
  | lease (e : LeaseError)
  /-- The model asset of a deployment does not exist. -/
  | missingAsset
  /-- A check raised something else than a control error. -/
  | escaped
  deriving DecidableEq

/-- `WorkloadSnapshot`: the fields that `run_once` reads. -/
structure WorkloadSnapshot where
  owner : LeaseOwner
  gpuIds : List Nat
  desiresRunning : Bool
  execution : Execution
  deriving DecidableEq

/-- `_snapshot`. -/
def snapshot (k : OwnerKey) (row : Row) (execution : Execution) : WorkloadSnapshot where
  owner := ⟨k.type, k.id, row.name, row.commandGeneration⟩
  gpuIds := row.gpuIds.insertionSort (· ≤ ·)
  desiresRunning := row.desiresRunning
  execution := execution

/-- The rows of all three tables, with their keys. -/
def Db.rows (db : Db) : List (OwnerKey × Row) :=
  db.deployments.entries.map (fun e => (⟨.deployment, e.1⟩, .deployment e.2)) ++
    db.trainingJobs.entries.map (fun e => (⟨.training, e.1⟩, .training e.2)) ++
    db.evaluationRuns.entries.map (fun e => (⟨.evaluation, e.1⟩, .evaluation e.2))

/-- `_load_active_workloads`. A SELECT without ORDER BY may return the rows of a table
in any order. -/
def loadActiveWorkloads (db : Db) : List WorkloadSnapshot :=
  (db.rows.filter fun e => e.2.active).map fun e => snapshot e.1 e.2 .empty

/-- `_action_for_active`. -/
def actionForActive (w : WorkloadSnapshot) : AgentAction := if w.desiresRunning then .status else .stop

/-- `probe_before_stop`. -/
def probeBeforeStop (w : WorkloadSnapshot) : Bool := w.owner.type = .training && !w.desiresRunning

/-- `_command`. -/
def command (w : WorkloadSnapshot) (action : AgentAction) : AgentCommand :=
  ⟨action, w.owner, w.gpuIds, if action = .start then w.execution else .empty⟩

/-! ## The FIFO claim -/

/-- The rank of an owner type's name. -/
def LeaseOwnerType.rank : LeaseOwnerType → Nat
  | .deployment => 0
  | .evaluation => 1
  | .training => 2

/-- `_queue_sort_key`. -/
def queueSortKey (e : OwnerKey × Row) : Nat × Nat × Nat :=
  (e.2.queuedAt.getD e.2.createdAt, e.1.type.rank, e.1.id)

/-- The order of two sort keys. -/
def sortKeyLt (a b : Nat × Nat × Nat) : Bool :=
  a.1 < b.1 || (a.1 = b.1 && (a.2.1 < b.2.1 || (a.2.1 = b.2.1 && a.2.2 < b.2.2)))

/-- The queue: rows in QUEUED whose desired state is running. -/
def candidates (db : Db) : List (OwnerKey × Row) := db.rows.filter fun e => e.2.queued && e.2.desiresRunning

/-- `min(candidates, key=_queue_sort_key)`. -/
def fifoHead : List (OwnerKey × Row) → Option (OwnerKey × Row)
  | [] => none
  | e :: es =>
    match fifoHead es with
    | none => some e
    | some e' => if sortKeyLt (queueSortKey e') (queueSortKey e) then some e' else some e

/-- What a claim finds outside the database: the clock, a fresh group id and the outcome
of `build_training_execution` or `build_evaluation_execution`. -/
structure ClaimEnv where
  now : Time
  group : Uuid
  jobExecution : Outcome Json

/-- `ScheduleAttempt`. -/
inductive ScheduleAttempt
  | empty
  | blocked (by' : Option LeaseOwner)
  | claimed (w : WorkloadSnapshot)
  | preflightFailed

/-- `_build_execution`, with `assetPath` the `local_path` of the assets; an inner error is
a control error. -/
def buildRowExecution (assetPath : Uuid → Option PyStr) (env : ClaimEnv) :
    Row → Except RoundError (Except PyStr Execution)
  | .deployment d =>
    match assetPath d.modelAssetId with
    | none => .error .missingAsset
    | some path => .ok (.ok (.vllm (buildExecution path d)))
  | .training _ | .evaluation _ =>
    match env.jobExecution with
    | .ok e => .ok (.ok (.json e))
    | .control m => .ok (.error m)
    | .escape => .error .escaped

/-- The columns of a job whose preflight failed. -/
def preflightFailedJob (label message : PyStr) (now : Time) (j : JobColumns) : JobColumns :=
  { j with
    actualState := .failed
    queuedAt := none
    runtimeGeneration := 0
    finishedAt := some now
    errorMessage := some (label ++ py "启动前检查失败：" ++ message) }

/-- The row after a failed preflight; a deployment has none. -/
def Row.preflightFailed (message : PyStr) (now : Time) : Row → Row
  | .deployment d => .deployment d
  | .training j => .training { j with toJobColumns := preflightFailedJob (py "训练") message now j.toJobColumns }
  | .evaluation r => .evaluation { r with toJobColumns := preflightFailedJob (py "评测") message now r.toJobColumns }

/-- The row with another runtime generation. -/
def Row.withGeneration (g : Nat) : Row → Row
  | .deployment d => .deployment { d with runtimeGeneration := g }
  | .training j => .training { j with runtimeGeneration := g }
  | .evaluation r => .evaluation { r with runtimeGeneration := g }

/-- The row after a successful claim. -/
def Row.claimed : Row → Row
  | .deployment d => .deployment
      { d with
        runtimeGeneration := d.stateVersion
        actualState := .starting
        queuedAt := none
        errorMessage := none
        internalUrl := none
        healthStatus := none
        startedAt := none }
  | .training j => .training
      { j with runtimeGeneration := j.stateVersion, actualState := .starting, queuedAt := none, errorMessage := none }
  | .evaluation r => .evaluation
      { r with runtimeGeneration := r.stateVersion, actualState := .starting, queuedAt := none, errorMessage := none }

/-- `_claim_fifo_head`. -/
def claimFifoHead (cfg : Settings) (assetPath : Uuid → Option PyStr) (env : ClaimEnv) (db : Db) :
    Except RoundError (ScheduleAttempt × Db) :=
  match fifoHead (candidates db) with
  | none => .ok (.empty, db)
  | some (k, row) =>
    match buildRowExecution assetPath env row with
    | .error e => .error e
    | .ok (.error m) => .ok (.preflightFailed, db.put k.id (row.preflightFailed m env.now))
    | .ok (.ok execution) =>
      let owner : LeaseOwner := ⟨k.type, k.id, row.name, row.stateVersion⟩
      match tryAcquireLocked cfg.gpuLeaseTtl env.group owner row.gpuIds env.now db.gpuLeases with
      | .error e => .error (.lease e)
      | .ok (acquisition, leases) =>
        if ¬ acquisition.acquired then
          .ok (.blocked acquisition.blockingOwner, db.put k.id (row.withGeneration 0))
        else
          .ok (.claimed (snapshot k row.claimed execution), { db.put k.id row.claimed with gpuLeases := leases })

/-! ## Observations -/

/-- `_deployment_health_status`. -/
def deploymentHealthStatus (metadata : List (PyStr × Json)) : Option HealthStatus :=
  match Dict.get? metadata (py "health_status") with
  | some (.str s) =>
    if s = py "starting" then some .starting
    else if s = py "healthy" then some .healthy
    else if s = py "unhealthy" then some .unhealthy
    else none
  | _ => none

/-- `metadata.get("port")` if it is an `int`; booleans are. -/
def metadataPort (metadata : List (PyStr × Json)) : Option Int :=
  match Dict.get? metadata (py "port") with
  | some (.int n) => some n
  | some (.bool b) => some (if b then 1 else 0)
  | _ => none

/-- `metadata.get("endpoint")` if it is a `str`. -/
def metadataEndpoint (metadata : List (PyStr × Json)) : Option PyStr :=
  match Dict.get? metadata (py "endpoint") with
  | some (.str s) => some s
  | _ => none

/-- The state of a deployment that is observed live. -/
def liveDeploymentState : AgentWorkloadState → DeploymentState
  | .starting => .starting
  | .running => .running
  | _ => .stopping

/-- The state of a job that is observed live. -/
def liveJobState : AgentWorkloadState → JobState
  | .starting => .starting
  | .running => .running
  | _ => .canceling

/-- `_apply_deployment_observation`: the row, and whether the owner's lease is released. -/
def applyDeploymentObservation (now : Time) (response : AgentCommandResponse) (row : Deployment) :
    Deployment × Bool :=
  let healthStatus := deploymentHealthStatus response.metadata
  match response.observedState with
  | .absent =>
    if ¬ response.accepted then
      ({ row with
          actualState := .failed
          healthStatus := none
          internalUrl := none
          errorMessage := some (orText response.message (py "node-agent 拒绝部署启动")) }, true)
    else if row.desiredState = .running then
      ({ row with
          healthStatus := none
          internalUrl := none
          actualState := .queued
          queuedAt := some now
          runtimeGeneration := 0
          startedAt := none
          errorMessage := some (py "node-agent 未发现运行实例，已重新排队") }, true)
    else
      ({ row with healthStatus := none, internalUrl := none, actualState := .stopped, errorMessage := none }, true)
  | .failed | .succeeded =>
    ({ row with
        actualState := .failed
        healthStatus := healthStatus
        errorMessage := some (orText response.message (py "推理实例异常退出"))
        internalUrl := none }, true)
  | .starting | .running | .stopping =>
    if row.desiredState = .stopped then
      ({ row with actualState := .stopping, healthStatus := healthStatus }, false)
    else
      ({ row with
          actualState := liveDeploymentState response.observedState
          healthStatus := healthStatus
          startedAt := if response.observedState = .running ∧ row.startedAt = none then some now else row.startedAt
          internalUrl := (metadataEndpoint response.metadata).or row.internalUrl
          port := (metadataPort response.metadata).or row.port
          errorMessage := if response.accepted then none else response.message }, false)

/-- What `validate_training_observation_metadata` returns. -/
structure TrainingObservation where
  progress : Option PyFloat
  currentStep : Option Int
  totalSteps : Option Int
  metrics : Option Json
  checkpointPath : Option PyStr
  adapterPath : Option PyStr
  mergedModelPath : Option PyStr

/-- What `validate_evaluation_success_metadata` returns. -/
structure EvaluationSuccess where
  metrics : Json
  comparison : Json
  resultPath : PyStr
  datasetManifestPath : PyStr
  warnings : List PyStr

/-- What applying an answer finds outside the database: the clock and the outcomes of
the checks of metadata and artifacts. -/
structure ObservationEnv where
  now : Time
  trainingMetadata : Outcome TrainingObservation
  trainingArtifacts : Outcome Unit
  evaluationMetadata : Outcome EvaluationSuccess

/-- `_copy_training_metadata`. -/
def copyTrainingMetadata (m : TrainingObservation) (row : TrainingJob) : TrainingJob :=
  { row with
    progress := m.progress.getD row.progress
    currentStep := m.currentStep.or row.currentStep
    totalSteps := m.totalSteps.or row.totalSteps
    metrics := m.metrics.getD row.metrics
    checkpointPath := m.checkpointPath.or row.checkpointPath
    adapterPath := m.adapterPath.or row.adapterPath
    mergedModelPath := m.mergedModelPath.or row.mergedModelPath }

/-- A job that ends: its state, its message and the time. -/
def JobColumns.finish (j : JobColumns) (state : JobState) (message : Option PyStr) (now : Time) : JobColumns :=
  { j with actualState := state, errorMessage := message, finishedAt := some now }

/-- A job whose container is absent. -/
def JobColumns.absent (j : JobColumns) (response : AgentCommandResponse) (now : Time) : JobColumns :=
  if j.desiredState = .terminated then j.finish .canceled none now
  else j.finish .failed (some (orText response.message (py "运行实例意外消失，请人工重新创建任务"))) now

/-- A job whose container is observed live: its state and, on the first RUNNING, its start. -/
def JobColumns.observedLive (j : JobColumns) (observed : AgentWorkloadState) (now : Time) : JobColumns :=
  { j with
    actualState := if j.desiredState = .terminated then .canceling else liveJobState observed
    startedAt := if observed = .running ∧ j.startedAt = none then some now else j.startedAt }

/-- `_apply_job_observation` of a training job. -/
def applyTrainingObservation (env : ObservationEnv) (response : AgentCommandResponse) (row : TrainingJob) :
    Except RoundError (TrainingJob × Bool) :=
  match response.observedState with
  | .absent => .ok ({ row with toJobColumns := row.absent response env.now }, true)
  | .failed =>
    match env.trainingMetadata with
    | .escape => .error .escaped
    | .control m => .ok (rejected m, true)
    | .ok m =>
      let row := copyTrainingMetadata m row
      let message := orText response.message (py "训练运行失败")
      .ok ({ row with toJobColumns := row.finish .failed (some message) env.now }, true)
  | .succeeded =>
    match env.trainingMetadata with
    | .escape => .error .escaped
    | .control m => .ok (rejected m, true)
    | .ok m =>
      -- 100.0
      let row := { copyTrainingMetadata m row with progress := .finite false 1 2 }
      match env.trainingArtifacts with
      | .escape => .error .escaped
      | .control m =>
        .ok ({ row with toJobColumns := row.finish .failed (some (py "训练成功产物校验失败：" ++ m)) env.now }, true)
      | .ok () => .ok ({ row with toJobColumns := row.finish .succeeded none env.now }, true)
  | .starting | .running | .stopping =>
    let row := { row with toJobColumns := row.observedLive response.observedState env.now }
    match env.trainingMetadata with
    | .escape => .error .escaped
    | .control m => .ok ({ row with errorMessage := some (py "训练状态 metadata 校验失败：" ++ m) }, false)
    | .ok m =>
      .ok ({ copyTrainingMetadata m row with
        errorMessage := if response.accepted then none else response.message }, false)
where
  rejected (m : PyStr) : TrainingJob :=
    { row with
      toJobColumns := row.finish .failed (some (py "训练终态 metadata 校验失败：" ++ m)) env.now
      checkpointPath := none
      adapterPath := none
      mergedModelPath := none }

/-- `_apply_job_observation` of an evaluation run. -/
def applyEvaluationObservation (env : ObservationEnv) (response : AgentCommandResponse) (row : EvaluationRun) :
    Except RoundError (EvaluationRun × Bool) :=
  match response.observedState with
  | .absent => .ok ({ row with toJobColumns := row.absent response env.now }, true)
  | .succeeded =>
    match env.evaluationMetadata with
    | .escape => .error .escaped
    | .control m =>
      .ok ({ row with
        toJobColumns := row.finish .failed (some (py "评测成功产物校验失败：" ++ m)) env.now
        metrics := .obj []
        comparison := .obj []
        resultPath := none
        datasetManifestPath := none
        warnings := [] }, true)
    | .ok m =>
      .ok ({ row with
        toJobColumns := row.finish .succeeded none env.now
        metrics := m.metrics
        comparison := m.comparison
        resultPath := some m.resultPath
        datasetManifestPath := some m.datasetManifestPath
        warnings := m.warnings }, true)
  | .failed =>
    let message := orText response.message (py "评测运行失败")
    .ok ({ row with toJobColumns := row.finish .failed (some message) env.now }, true)
  | .starting | .running | .stopping =>
    let row := { row with toJobColumns := row.observedLive response.observedState env.now }
    .ok ({ row with errorMessage := if response.accepted then none else response.message }, false)

/-- What an answer does to its row: the new row, and whether the lease is released. -/
def observeRow (env : ObservationEnv) (response : AgentCommandResponse) : Row → Except RoundError (Row × Bool)
  | .deployment d =>
    let (d, released) := applyDeploymentObservation env.now response d
    .ok (.deployment d, released)
  | .training j => do
    let (j, released) ← applyTrainingObservation env response j
    .ok (.training j, released)
  | .evaluation r => do
    let (r, released) ← applyEvaluationObservation env response r
    .ok (.evaluation r, released)

/-- The row that a late transaction about `w` may still change: the one with the
generation of the snapshot. -/
def currentRow (w : WorkloadSnapshot) (db : Db) : Option Row :=
  (db.getRow w.owner.key).filter fun row => row.runtimeGeneration = w.owner.generation

/-- `_apply_observation`. -/
def applyObservation (cfg : Settings) (env : ObservationEnv) (w : WorkloadSnapshot)
    (response : AgentCommandResponse) (db : Db) : Except RoundError Db :=
  match currentRow w db with
  | none => .ok db
  | some row => do
    let (row, released) ← observeRow env response row
    let leases := if released then release w.owner db.gpuLeases else db.gpuLeases
    let leases :=
      if response.observedState.live then heartbeat cfg.gpuLeaseTtl w.owner env.now leases else leases
    .ok { db.put w.owner.id row with gpuLeases := leases }

/-- A row with another error message. -/
def Row.withError (message : PyStr) : Row → Row
  | .deployment d => .deployment { d with errorMessage := some message }
  | .training j => .training { j with errorMessage := some message }
  | .evaluation r => .evaluation { r with errorMessage := some message }

/-- `_record_agent_error`. -/
def recordAgentError (w : WorkloadSnapshot) (message : PyStr) (db : Db) : Db :=
  match currentRow w db with
  | none => db
  | some row => db.put w.owner.id (row.withError message)

/-- The row whose START was refused. -/
def Row.startFailed (message : PyStr) (now : Time) : Row → Row
  | .deployment d => .deployment
      { d with actualState := .failed, errorMessage := some message, healthStatus := none, internalUrl := none }
  | .training j => .training { j with toJobColumns := j.finish .failed (some message) now }
  | .evaluation r => .evaluation { r with toJobColumns := r.finish .failed (some message) now }

/-- `_fail_start`. -/
def failStart (w : WorkloadSnapshot) (message : PyStr) (now : Time) (db : Db) : Db :=
  match currentRow w db with
  | none => db
  | some row =>
    { db.put w.owner.id (row.startFailed message now) with gpuLeases := release w.owner db.gpuLeases }

/-- `_reap_terminal_expired_leases`: an owner is confirmed if its row is gone or ended. -/
def reapTerminalExpiredLeases (now : Time) (db : Db) : Db :=
  { db with gpuLeases := reapExpiredLocked (fun o => (db.getRow o.1).all Row.isTerminal) now db.gpuLeases }

end OpenLLMOps
