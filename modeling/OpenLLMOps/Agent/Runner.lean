import OpenLLMOps.Agent.Docker
import OpenLLMOps.Framework.Dict
import OpenLLMOps.Framework.PyNumber

/-!
# The runner

The operations of `DockerRunner` that commands use. What they find outside Docker
is an argument: the outcomes of the checks that come before a container is created
(`Preflight`), the directories of a job (`TrainingFiles`, `EvaluationFiles`) and the
processes that NVML reports.

A managed container is taken to have the id and the kind of its name where `_to_info`
reads them. The cleanup checks them.
-/

namespace OpenLLMOps

open Framework

/-- The settings that the runner and the processor read. -/
structure AgentSettings where
  inferenceStartupTimeoutSeconds : Nat
  inferenceUnhealthyTimeoutSeconds : Nat
  enforceNvmlProcessCheck : Bool

/-- `INFERENCE_HEALTH_INTERVAL_SECONDS`. -/
def inferenceHealthIntervalSeconds : Nat := 5

/-- `INFERENCE_MAX_RESTARTS`. -/
def inferenceMaxRestarts : Nat := 3

/-! ## What a launch was prepared with -/

structure InferenceSpec where
  gpuIds : List Nat
  endpoint : PyStr
  serviceType : PyStr
  port : Nat

/-- The output path is absolute, so not empty. -/
structure TrainingSpec where
  gpuIds : List Nat
  outputPath : PyStr
  algorithm : TrainingAlgorithm
  outputPath_ne : outputPath ≠ []

structure EvaluationSpec where
  gpuIds : List Nat
  outputPath : PyStr
  datasetManifestPath : PyStr
  baseTemplate : PyStr
  candidateTemplate : PyStr

def InferenceSpec.labels (spec : InferenceSpec) (generation : Nat) : ContainerLabels where
  managed := true
  trusted := true
  canonical := true
  generation := generation
  gpuIds := spec.gpuIds
  endpoint := some spec.endpoint
  serviceType := some spec.serviceType
  port := some spec.port
  outputPath := none
  trainingAlgorithm := none
  datasetManifestPath := none
  baseTemplate := none
  candidateTemplate := none

def TrainingSpec.labels (spec : TrainingSpec) (generation : Nat) : ContainerLabels where
  managed := true
  trusted := true
  canonical := true
  generation := generation
  gpuIds := spec.gpuIds
  endpoint := none
  serviceType := none
  port := none
  outputPath := some spec.outputPath
  trainingAlgorithm := some spec.algorithm
  datasetManifestPath := none
  baseTemplate := none
  candidateTemplate := none

def EvaluationSpec.labels (spec : EvaluationSpec) (generation : Nat) : ContainerLabels where
  managed := true
  trusted := true
  canonical := true
  generation := generation
  gpuIds := spec.gpuIds
  endpoint := none
  serviceType := none
  port := none
  outputPath := some spec.outputPath
  trainingAlgorithm := none
  datasetManifestPath := some spec.datasetManifestPath
  baseTemplate := some spec.baseTemplate
  candidateTemplate := some spec.candidateTemplate

/-- The execution and the request as they are checked before the launch, by owner type. -/
structure Preflight where
  inference : Except Raised InferenceSpec
  training : Except Raised TrainingSpec
  evaluation : Except Raised EvaluationSpec

/-- The output directory of a training job, as `training_metadata` finds it. -/
structure TrainingFiles where
  /-- `_training_output_path(create=False, require_empty=False)`; an error is an `InvalidWorkload`. -/
  outputPath : Except PyStr Unit
  /-- Reading the directory raises an exception that is no `InvalidWorkload`. -/
  unreadable : Bool
  /-- `_safe_training_json` of the root state and of the checkpoints' states. -/
  states : List (Except PyStr (Option Json))
  /-- The metadata that the states give. -/
  progress : List Json → List (PyStr × Json)
  /-- The checkpoint that is reported, and the paths of the artifacts. -/
  artifacts : Except PyStr (List (PyStr × Json))

/-- What `evaluation_metadata` makes of the files; an error is an `InvalidWorkload`. -/
structure EvaluationFiles where
  unreadable : Bool
  report : Except PyStr (List (PyStr × Json))

/-- The node outside Docker, while a command is executed. -/
structure Surroundings where
  now : Time
  /-- The text of the errors of a `ValidationError`. -/
  validationErrors : PyStr
  preflight : Preflight
  /-- `read_busy_gpu_ids`, `none` for `NVMLUnavailable`. -/
  busyGpuIds : Option (List Nat)
  training : TrainingFiles
  evaluation : EvaluationFiles

/-- The kind of an owner type's containers. -/
def LeaseOwnerType.kind : LeaseOwnerType → PyStr
  | .deployment => py "inference"
  | .training => py "training"
  | .evaluation => py "evaluation"

/-- `_workload_name`. -/
def workloadName (k : OwnerKey) : PyStr := py "openllmops-" ++ k.type.kind ++ py "-" ++ uuidText k.id

/-! ## Operations -/

open Docker

/-- `_managed_container`. -/
def managedContainer (k : OwnerKey) : Docker Container := do
  match ← inspect k with
  | none => throw .workloadNotFound
  | some c => if c.labels.managed then pure c else throw .workloadNotFound

/-- `_to_info` reloads the container; a container stands for its `WorkloadInfo`. -/
abbrev toInfo (k : OwnerKey) : Docker Container := reload k

/-- `get_contract_workload`. -/
def getContractWorkload (k : OwnerKey) : Docker Container := do
  let _ ← managedContainer k
  toInfo k

/-- `prepare_contract_start`. -/
def prepareContractStart (k : OwnerKey) (generation : Nat) : Docker (Option Container) := do
  match ← tryCatch (some <$> managedContainer k) (fun e =>
      if e = .workloadNotFound then pure none else throw e) with
  | none => pure none
  | some _ =>
    let container ← reload k
    if generation < container.labels.generation then
      throw (.workloadConflict (py "命令 generation 早于节点当前运行代"))
    else if container.labels.generation = generation then
      let info ← toInfo k
      pure (some info)
    else if container.active then
      throw (.workloadConflict (py "旧 generation 工作负载仍在运行，禁止自动抢占"))
    else
      remove k
      pure none

/-- A job that has ended with exit code 0. -/
def succeeded (type : LeaseOwnerType) (info : Container) : Bool :=
  type ≠ .deployment && info.state.status = .exited && info.state.exitCode = some 0

/-- `stop_contract_workload`. -/
def stopContractWorkload (k : OwnerKey) (generation : Nat) : Docker (Option Container) := do
  let _ ← managedContainer k
  let container ← reload k
  if container.labels.generation ≠ generation then
    throw (.workloadConflict (py "停止命令 generation 与节点容器不一致"))
  else
    let info ← toInfo k
    if succeeded k.type info then pure (some info)
    else if info.active then
      stop k
      let info ← toInfo k
      if succeeded k.type info then pure (some info)
      else
        remove k
        pure none
    else
      remove k
      pure none

/-- `cleanup_contract_workload`. -/
def cleanupContractWorkload (k : OwnerKey) (generation : Nat) : Docker Unit := do
  match ← inspect k with
  | none => pure ()
  | some _ =>
    match ← tryCatch (some <$> reload k) (fun e => if e = .notFound then pure none else throw e) with
    | none => pure ()
    | some container =>
      if ¬ (container.labels.managed ∧ container.labels.trusted) then
        throw (.workloadConflict (py "cleanup 目标容器缺少可信 owner 标签"))
      else if ¬ container.labels.canonical then
        throw (.workloadConflict (py "cleanup 目标容器缺少可信 generation 标签"))
      else if container.labels.generation ≠ generation then
        throw (.workloadConflict (py "cleanup generation 与节点容器不一致"))
      else if container.active then
        throw (.workloadConflict (py "cleanup 仅允许删除已进入终态的工作负载"))
      else if container.state.status = .removing then
        throw (.workloadConflict (py "cleanup 目标容器正在删除，结果尚未确认"))
      else if ¬ container.state.status.terminal then
        throw (.workloadConflict (py "cleanup 无法确认容器终态：" ++ container.state.status.text))
      else tryCatch (remove k) fun e => if e = .notFound then pure () else throw e

/-- `quiesce_failed_inference`: whether the container is known not to be active. -/
def quiesceFailedInference (k : OwnerKey) (generation : Nat) : Docker Bool := do
  match ← tryCatch (do let _ ← managedContainer k; Except.ok <$> reload k) (fun e =>
      match e with
      | .workloadNotFound | .notFound => pure (.error true)
      | .docker => pure (.error false)
      | e => throw e) with
  | .error quiet => pure quiet
  | .ok container =>
    if container.labels.generation ≠ generation then pure false
    else
      match container.state.status with
      | .removing => pure false
      | .created =>
        tryCatch (do remove k; pure true) fun e =>
          match e with
          | .notFound | .docker => pure false
          | e => throw e
      | _ =>
        if container.active then
          tryCatch (stop k) fun e =>
            match e with
            | .notFound | .docker => pure ()
            | e => throw e
        match ← tryCatch (Except.ok <$> reload k) (fun e =>
            match e with
            | .notFound => pure (.error true)
            | .docker => pure (.error false)
            | e => throw e) with
        | .error quiet => pure quiet
        | .ok container => pure (!container.active && container.state.status ≠ .removing)

/-- `training_metadata`. Broken states count only if the job has completed: the root state
always, another one if no state can be read. -/
def trainingMetadata (k : OwnerKey) (completed : Bool) (files : TrainingFiles) : Docker (List (PyStr × Json)) := do
  let container ← managedContainer k
  match container.labels.outputPath, container.labels.trainingAlgorithm with
  | some (_ :: _), some _ =>
    match files.outputPath with
    | .error message => throw (.invalidWorkload message)
    | .ok () =>
      if files.unreadable then throw .other
      else
        let states := files.states.filterMap fun s => s.toOption.join
        match (if completed then brokenState files.states states else none) with
        | some message => throw (.invalidWorkload message)
        | none =>
          if ¬ completed then pure (files.progress states)
          else
            match files.artifacts with
            | .error message => throw (.invalidWorkload (py "训练成功退出但产物校验失败：" ++ message))
            | .ok artifacts => pure (Dict.update (files.progress states) artifacts)
  | _, _ => throw (.invalidWorkload (py "训练容器缺少受控输出或算法标签"))
where
  errorOf : Except PyStr (Option Json) → Option PyStr
    | .error message => some message
    | .ok _ => none
  /-- The error that the states raise. -/
  brokenState (sources : List (Except PyStr (Option Json))) (states : List Json) : Option PyStr :=
    match sources with
    | .error message :: _ => some message
    | _ => if states = [] then (sources.filterMap fun s => errorOf s).getLast? else none

/-- A template that the launch gives. -/
def isTemplate (template : Option PyStr) : Bool := template = some (py "base") || template = some (py "instruct")

/-- `evaluation_metadata`. -/
def evaluationMetadata (k : OwnerKey) (files : EvaluationFiles) : Docker (List (PyStr × Json)) := do
  let container ← managedContainer k
  match container.labels.outputPath, container.labels.datasetManifestPath with
  | some (_ :: _), some (_ :: _) =>
    if ¬ (isTemplate container.labels.baseTemplate && isTemplate container.labels.candidateTemplate) then
      throw (.invalidWorkload (py "评测容器缺少可信模板标签"))
    else if files.unreadable then throw .other
    else
      match files.report with
      | .error message => throw (.invalidWorkload (py "评测产物无效：" ++ message))
      | .ok metadata => pure metadata
  | _, _ => throw (.invalidWorkload (py "评测容器缺少受控产物标签"))

/-! ## Launching -/

/-- `gpu_allocations`, after the containers have been listed. -/
def gpuAllocations : List OwnerKey → List (Nat × OwnerKey) → Docker (List (Nat × OwnerKey))
  | [], allocations => pure allocations
  | k :: ks, allocations => do
    let container ← reload k
    if ¬ container.active then gpuAllocations ks allocations
    else gpuAllocations ks (container.labels.gpuIds.foldl (fun d gpu => Dict.set d gpu k) allocations)

/-- `_assert_gpus_available`; the container of `excludeName` may have the GPUs. -/
def assertGpusAvailable (settings : AgentSettings) (busyGpuIds : Option (List Nat)) (gpuIds : List Nat)
    (excludeName : Option OwnerKey) : Docker Unit := do
  let owners ← list
  let allocations ← gpuAllocations owners []
  let conflicts := gpuIds.filterMap fun gpu =>
    ((Dict.get? allocations gpu).filter fun k => some k ≠ excludeName).map fun k => (gpu, k)
  if conflicts ≠ [] then
    throw (.workloadConflict (py "整卡独占冲突：" ++ (py ", ").intercalate
      (conflicts.map fun c => py "GPU " ++ decimal c.1 ++ py ": " ++ workloadName c.2)))
  else if ¬ settings.enforceNvmlProcessCheck then pure ()
  else
    match busyGpuIds with
    | none => throw .other
    | some [] => pure ()
    | some busy =>
      throw (.workloadConflict (py "GPU " ++ (py ", ").intercalate (busy.map decimal) ++
        py " 存在非受管进程，不能执行整卡独占分配"))

/-- The end of the three launch operations. -/
def launch (settings : AgentSettings) (around : Surroundings) (k : OwnerKey) (labels : ContainerLabels) :
    Docker Container := do
  match ← inspect k with
  | some _ => throw (.workloadConflict (py "工作负载已存在：" ++ workloadName k))
  | none =>
    assertGpusAvailable settings around.busyGpuIds labels.gpuIds none
    run k labels around.now
    toInfo k

/-! ## The operations on a name -/

/-- `start`. -/
def startNamed (settings : AgentSettings) (busyGpuIds : Option (List Nat)) (now : Time) (k : OwnerKey) :
    Docker Container := do
  let _ ← managedContainer k
  let info ← toInfo k
  if info.state.status = .running ∨ info.state.status = .restarting then pure info
  else if info.state.status = .paused then
    throw (.workloadConflict (py "工作负载处于 paused 状态，禁止用 start 隐式改变状态"))
  else
    assertGpusAvailable settings busyGpuIds info.labels.gpuIds (some k)
    start k now
    toInfo k

/-- `stop`. -/
def stopNamed (k : OwnerKey) : Docker Container := do
  let _ ← managedContainer k
  let info ← toInfo k
  if ¬ info.active then pure info
  else
    stop k
    toInfo k

/-- `delete`. -/
def deleteNamed (k : OwnerKey) (force : Bool) : Docker Unit := do
  let _ ← managedContainer k
  let container ← reload k
  if container.active ∧ ¬ force then
    throw (.workloadConflict (py "工作负载仍在运行，请先停止或显式使用 force"))
  else if force then forceRemove k
  else remove k

end OpenLLMOps
