import OpenLLMOps.Agent.Execute
import OpenLLMOps.Agent.Runner

/-!
# The command processor

`CommandProcessor._dispatch` and the handlers below it: what the agent does for a
command and what it answers. `execute` (in `Execute.lean`) wraps it with the
command state.
-/

namespace OpenLLMOps

open Framework

/-- `command.execution` is an empty object. -/
def Execution.isEmpty : Execution → Bool
  | .empty | .json (.obj []) => true
  | _ => false

/-- `TerminalCleanupExecution` accepts the execution. -/
def Execution.isCleanup : Execution → Bool
  | .cleanupTerminal => true
  | .json (.obj [(key, .bool true)]) => key = py "cleanup_terminal"
  | _ => false

/-- `execution.get("runner")`, if it is a string. -/
def Execution.runner : Execution → Option PyStr
  | .vllm _ => some (py "vllm")
  | .json (.obj kvs) =>
    match Dict.get? kvs (py "runner") with
    | some (.str s) => some s
    | _ => none
  | _ => none

/-- The runner that `_start` expects for an owner type. -/
def LeaseOwnerType.runner : LeaseOwnerType → PyStr
  | .deployment => py "vllm"
  | .training => py "llamafactory"
  | .evaluation => py "evaluation"

def LeaseOwnerType.value : LeaseOwnerType → PyStr
  | .deployment => py "deployment"
  | .training => py "training"
  | .evaluation => py "evaluation"

def HealthStatus.value : HealthStatus → PyStr
  | .starting => py "starting"
  | .healthy => py "healthy"
  | .unhealthy => py "unhealthy"

/-! ## Observing -/

/-- `_state_from_info`. -/
def stateFromInfo (type : LeaseOwnerType) (info : Container) : AgentWorkloadState :=
  match type with
  | .deployment =>
    match info.state.status with
    | .created | .restarting | .paused => .starting
    | .running => if info.state.healthStatus = some .healthy then .running else .starting
    | .removing => .stopping
    | .exited | .dead | .unknown _ => .failed
  | .training | .evaluation =>
    match info.state.status with
    | .created | .restarting => .starting
    | .running | .paused => .running
    | .removing => .stopping
    | .exited => if info.state.exitCode = some 0 then .succeeded else .failed
    | .dead | .unknown _ => .failed

/-- `_startup_timeout_reason`. -/
def startupTimeoutReason (settings : AgentSettings) (now : Time) (startedAt : Option Time) : Option PyStr :=
  match startedAt with
  | none => some (py "推理容器缺少可信启动时间，无法执行有界 readiness 探测")
  | some startedAt =>
    if settings.inferenceStartupTimeoutSeconds * 1000000 ≤ now - startedAt then
      some (py "推理服务启动超过 " ++ decimal settings.inferenceStartupTimeoutSeconds ++ py " 秒仍未就绪")
    else none

/-- `_inference_failure_reason`. -/
def inferenceFailureReason (settings : AgentSettings) (now : Time) (info : Container) : Option PyStr :=
  let s := info.state
  if s.healthStatus = some .healthy ∧ s.status = .running then none
  else if inferenceMaxRestarts ≤ s.restartCount then
    some (py "推理容器重启次数已达到上限 " ++ decimal inferenceMaxRestarts)
  else if s.status = .restarting then startupTimeoutReason settings now (s.finishedAt.or info.createdAt)
  else if s.healthStatus = some .unhealthy then
    if s.healthFailingStreak = 0 then some (py "推理服务 unhealthy 状态缺少可信连续失败计数")
    else if settings.inferenceUnhealthyTimeoutSeconds ≤ s.healthFailingStreak * inferenceHealthIntervalSeconds then
      some (py "推理服务连续健康检查失败达到 " ++ decimal settings.inferenceUnhealthyTimeoutSeconds ++ py " 秒")
    else none
  else startupTimeoutReason settings now (s.startedAt.or info.createdAt)

/-- The metadata of a deployment: the entries that are not null. -/
def deploymentMetadata (state : AgentWorkloadState) (info : Container) : List (PyStr × Json) :=
  [(py "health_status", info.state.healthStatus.map fun h => Json.str h.value)].filterMap present ++
    if state = .running then
      [(py "endpoint", info.labels.endpoint.map .str), (py "port", info.labels.port.map fun n => .int n),
        (py "service_type", info.labels.serviceType.map .str)].filterMap present
    else []
where
  present (kv : PyStr × Option Json) : Option (PyStr × Json) := kv.2.map fun v => (kv.1, v)

/-- The message of an answer. -/
def answerMessage (type : LeaseOwnerType) (state : AgentWorkloadState) (info : Container)
    (inferenceFailure : Option PyStr) (stopUncertain : Bool) : Option PyStr :=
  if state = .failed then
    match inferenceFailure, info.state.exitCode with
    | some reason, _ => some reason
    | none, some code => some (py "工作负载异常退出，exit_code=" ++ strInt code)
    | none, none => some (py "工作负载处于失败状态")
  else if type = .deployment ∧ state = .starting then
    if stopUncertain then some (inferenceFailure.getD (py "None") ++ py "；停止结果尚未确认，继续保留 GPU 并探测")
    else if info.state.status = .restarting then some (py "推理容器正在重启，继续保留 GPU 并探测")
    else
      match info.state.healthStatus with
      | some .unhealthy => some (py "推理服务健康检查未通过，继续保留 GPU 并探测")
      | some .starting => some (py "推理服务正在加载模型，等待 readiness")
      | _ => some (py "推理容器尚未提供可信健康状态，等待重建或后续探测")
  else none

section Processor

variable (settings : AgentSettings) (around : Surroundings) (c : AgentCommand)

/-- The state that `_response_from_info` reports: an inference container that fails to become
ready is stopped first. The flag says that the stop is uncertain. -/
def settledState (info : Container) : Docker (AgentWorkloadState × Option PyStr × Bool) := do
  let state := stateFromInfo c.owner.type info
  if c.owner.type = .deployment ∧ state = .starting then
    match inferenceFailureReason settings around.now info with
    | none => pure (state, none, false)
    | some reason =>
      let quiesced ← quiesceFailedInference c.owner.key info.labels.generation
      pure (if quiesced then (.failed, some reason, false) else (state, some reason, true))
  else pure (state, none, false)

/-- The metadata of an answer. -/
def answerMetadata (state : AgentWorkloadState) (info : Container) : Docker (List (PyStr × Json)) :=
  match c.owner.type with
  | .deployment => pure (deploymentMetadata state info)
  | .training => trainingMetadata c.owner.key (state = .succeeded) around.training
  | .evaluation => if state = .succeeded then evaluationMetadata c.owner.key around.evaluation else pure []

/-- `_response_from_info`. -/
def responseFromInfo (info : Container) : Docker CommandResult := do
  let (state, inferenceFailure, stopUncertain) ← settledState settings around c info
  let metadata ← answerMetadata around c state info
  let message := answerMessage c.owner.type state info inferenceFailure stopUncertain
  pure ⟨200, ⟨true, state, message, none, metadata⟩⟩

/-- `_observe`. -/
def observe : Docker CommandResult := do
  match ← tryCatch (some <$> getContractWorkload c.owner.key) (fun e =>
      if e = .workloadNotFound then pure none else throw e) with
  | none => pure acceptedAbsent
  | some info =>
    if info.labels.generation ≠ c.owner.generation then
      throw (.workloadConflict (py "status generation 与节点容器不一致"))
    else responseFromInfo settings around c info

/-- `_stop`. -/
def stopWorkload : Docker CommandResult := do
  match ← tryCatch (stopContractWorkload c.owner.key c.owner.generation) (fun e =>
      if e = .workloadNotFound then pure none else throw e) with
  | none => pure acceptedAbsent
  | some info => responseFromInfo settings around c info

/-- `_cleanup`. -/
def cleanup : Docker CommandResult := do
  cleanupContractWorkload c.owner.key c.owner.generation
  pure acceptedAbsent

/-- The labels of the container that `_start` launches, if its checks pass. -/
def launchLabels : Except Raised ContainerLabels :=
  match c.owner.type with
  | .deployment => around.preflight.inference.map (·.labels c.owner.generation)
  | .training => around.preflight.training.map (·.labels c.owner.generation)
  | .evaluation => around.preflight.evaluation.map (·.labels c.owner.generation)

/-- `_start`. -/
def startWorkload : Docker CommandResult := do
  if c.execution.runner ≠ some c.owner.type.runner then
    throw (.invalidWorkload (c.owner.type.value ++ py " 只能使用 execution.runner=" ++ c.owner.type.runner))
  else
    match ← prepareContractStart c.owner.key c.owner.generation with
    | some existing => responseFromInfo settings around c existing
    | none =>
      match launchLabels around c with
      | .error e => throw e
      | .ok labels =>
        let info ← launch settings around c.owner.key labels
        responseFromInfo settings around c info

/-- `_dispatch`. -/
def dispatch : Docker CommandResult :=
  match c.action with
  | .start => startWorkload settings around c
  | .stop =>
    if c.execution.isEmpty then stopWorkload settings around c
    else if c.execution.isCleanup then cleanup c
    else throw (.validation around.validationErrors)
  | .status =>
    if c.execution.isEmpty then observe settings around c
    else throw (.invalidWorkload (py "status 命令的 execution 必须为空对象"))

end Processor

end OpenLLMOps
