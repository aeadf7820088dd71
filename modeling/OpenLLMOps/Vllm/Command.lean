import Mathlib.Data.List.Sort
import OpenLLMOps.Vllm.ControlPlane

/-!
# The agent's vLLM command

From a START command's execution to the argument vector of the vLLM container:
`VLLMExecution` and `_merge_vllm_arguments` of `command_service.py`,
`InferenceLaunchRequest` of `schemas.py`, `_validate_vllm_argument` and
`_vllm_command` of `docker_runner.py`. The image, the model directory and the
GPUs' availability do not depend on the arguments and are not checked here.

The execution travels as canonical JSON, so the agent reads every object with
its keys sorted (`Json.sortKeys`).
-/

namespace Framework

/-- The order of Python strings. -/
def PyStr.le (s t : PyStr) : Prop := s ≤ t

instance : DecidableRel PyStr.le := fun s t => inferInstanceAs (Decidable (s ≤ t))

namespace Json

mutual

/-- `json.loads(json.dumps(v, sort_keys=True))`. -/
def sortKeys : Json → Json
  | .arr xs => .arr (sortArr xs)
  | .obj kvs => .obj ((sortObj kvs).insertionSort fun a b => PyStr.le a.1 b.1)
  | v => v

/-- `sortKeys` of the elements of an array. -/
def sortArr : List Json → List Json
  | [] => []
  | x :: xs => sortKeys x :: sortArr xs

/-- `sortKeys` of the values of an object. -/
def sortObj : List (PyStr × Json) → List (PyStr × Json)
  | [] => []
  | (k, v) :: kvs => (k, sortKeys v) :: sortObj kvs

end

end Json

end Framework

namespace OpenLLMOps.Vllm

open Framework

/-- Why a START is refused: `invalid_execution` for a pydantic `ValidationError`,
`invalid_workload` for an `InvalidWorkload`. -/
inductive StartError
  | invalidExecution
  | invalidWorkload (message : PyStr)
  deriving DecidableEq

/-- A parsed `VLLMExecution`. -/
structure VLLMExecution where
  serviceType : DeploymentTaskType
  modelPath : PyStr
  servedModelName : PyStr
  port : Option Int
  tensorParallelSize : Nat
  simplifiedConfig : List (PyStr × Json)
  vllmArgs : List (PyStr × Json)

/-- `VLLMExecution.model_validate`. -/
def VLLMExecution.modelValidate (e : DeploymentExecution) : Except StartError VLLMExecution :=
  match e.simplifiedConfig.sortKeys, e.vllmArgs.sortKeys with
  | .obj simplified, .obj detailed =>
    if servedModelNamePattern e.servedModelName ∧ (e.port.all fun p => 1024 ≤ p && p ≤ 65535) ∧
        1 ≤ e.tensorParallelSize ∧ e.tensorParallelSize ≤ 16 ∧
        (simplified.all fun kv => kv.1.encodable) ∧ (detailed.all fun kv => kv.1.encodable) then
      .ok ⟨e.serviceType, e.modelPath, e.servedModelName, e.port, e.tensorParallelSize, simplified, detailed⟩
    else .error .invalidExecution
  | _, _ => .error .invalidExecution

/-- `_merge_vllm_arguments`. -/
def mergeVllmArguments (simplified detailed : List (PyStr × Json)) : Except StartError (List (PyStr × Json)) :=
  if 128 < simplified.length + detailed.length then
    .error (.invalidWorkload (py "vLLM 参数数量超过节点安全上限"))
  else .ok (Dict.update simplified detailed)

/-- `JsonScalar`, with `allow_inf_nan=False`. -/
def isJsonScalar : Json → Bool
  | .bool _ | .int _ => true
  | .float x => x.isFinite
  | .str s => s.encodable
  | _ => false

/-- `InferenceLaunchRequest`: the fields that the command reads. -/
structure InferenceLaunchRequest where
  gpuIds : List Nat
  servedModelName : PyStr
  serviceType : DeploymentTaskType
  port : Int
  vllmArgs : List (PyStr × Json)

/-- The field constraints of `InferenceLaunchRequest`. -/
def InferenceLaunchRequest.accepted (r : InferenceLaunchRequest) : Bool :=
  1 ≤ r.gpuIds.length && r.gpuIds.length ≤ 16 && r.gpuIds.Nodup && servedModelNamePattern r.servedModelName &&
    1024 ≤ r.port && r.port ≤ 65535 && r.vllmArgs.all fun kv => kv.1.encodable && isJsonScalar kv.2

/-- `_validate_vllm_argument`. -/
def validateVllmArgument (casing : Casing) (key : PyStr) (value : Json) : Except PyStr Unit :=
  match optionClass key with
  | .boolean =>
    match value with
    | .bool _ => .ok ()
    | _ => .error (py "vLLM 参数 " ++ key ++ py " 必须是布尔值")
  | .positiveInteger limit =>
    match value with
    | .int n =>
      if n ≤ 0 then .error (py "vLLM 参数 " ++ key ++ py " 必须是正整数")
      else if n > limit then .error (py "vLLM 参数 " ++ key ++ py " 超出节点安全上限 " ++ strInt limit)
      else .ok ()
    | _ => .error (py "vLLM 参数 " ++ key ++ py " 必须是正整数")
  | .nonnegativeInteger limit =>
    match value with
    | .int n =>
      if n < 0 then .error (py "vLLM 参数 " ++ key ++ py " 必须是非负整数")
      else if n > limit then .error (py "vLLM 参数 " ++ key ++ py " 超出节点安全上限 " ++ strInt limit)
      else .ok ()
    | _ => .error (py "vLLM 参数 " ++ key ++ py " 必须是非负整数")
  | .cpuOffload =>
    -- `nan` passes both comparisons
    match value with
    | .int n =>
      if n < 0 then .error (py "vLLM 参数 " ++ key ++ py " 必须是非负数")
      else if n > 16 then .error (py "vLLM 参数 " ++ key ++ py " 超出每 GPU 安全上限 16 GiB")
      else .ok ()
    | .float x =>
      if x ≠ .nan ∧ ¬ x.ge 0 0 then .error (py "vLLM 参数 " ++ key ++ py " 必须是非负数")
      else if x ≠ .nan ∧ ¬ x.le 16 0 then .error (py "vLLM 参数 " ++ key ++ py " 超出每 GPU 安全上限 16 GiB")
      else .ok ()
    | _ => .error (py "vLLM 参数 " ++ key ++ py " 必须是非负数")
  | .blockSize =>
    if value = .int 8 ∨ value = .int 16 ∨ value = .int 32 then .ok ()
    else .error (py "block-size 在 CUDA 节点仅允许 8、16 或 32")
  | .gpuMemoryUtilization =>
    match value with
    | .float x =>
      if x.ge 1 (-1) ∧ x.le 98 (-2) then .ok () else .error (py "gpu-memory-utilization 必须位于 0.1..0.98")
    | _ => .error (py "gpu-memory-utilization 必须位于 0.1..0.98")
  | .pipelineParallelSize =>
    if value = .int 1 then .ok () else .error (py "首版单机调度固定 pipeline-parallel-size=1")
  | .enum allowed =>
    match value with
    | .str s =>
      if s.lower casing ∈ allowed then .ok ()
      else .error (py "vLLM 参数 " ++ key ++ py " 仅允许：" ++ (py ", ").intercalate allowed)
    | _ => .error (py "vLLM 参数 " ++ key ++ py " 仅允许：" ++ (py ", ").intercalate allowed)
  | .quantization =>
    match value with
    | .str s =>
      if quantizationPattern s then .ok () else .error (py "vLLM 参数 " ++ key ++ py " 的值格式不安全")
    | _ => .error (py "vLLM 参数 " ++ key ++ py " 的值格式不安全")
  | .unknown => .error (py "vLLM 参数 " ++ key ++ py " 缺少节点侧类型约束")

/-- The loop of `_vllm_command`; the result is `normalized`. -/
def normalizeArguments (casing : Casing) :
    List (PyStr × Json) → List (PyStr × Json) → Except StartError (List (PyStr × Json))
  | normalized, [] => .ok normalized
  | normalized, (rawKey, value) :: rest =>
    let key := normalizeKey casing rawKey
    if key ∉ argumentAllowlist then .error (.invalidWorkload (py "不允许的 vLLM 参数：" ++ rawKey))
    else if unsafeText value then
      .error (.invalidWorkload (py "vLLM 参数 " ++ rawKey ++ py " 包含非法字符或过长"))
    else match validateVllmArgument casing key value with
      | .error e => .error (.invalidWorkload e)
      | .ok () => normalizeArguments casing (Dict.set normalized key value) rest

/-- `str(value)` of the numbers and strings that pass `_validate_vllm_argument`. -/
def argumentText : Json → PyStr
  | .int n => strInt n
  | .float x => x.repr
  | .str s => s
  | _ => []

/-- What one option adds to the argument vector. -/
def renderOption (kv : PyStr × Json) : List PyStr :=
  match kv.2 with
  | .bool b => if b then [py "--" ++ kv.1] else []
  | v => [py "--" ++ kv.1, argumentText v]

/-- `sorted(normalized)`, with the values. -/
def sortedOptions (normalized : List (PyStr × Json)) : List (PyStr × Json) :=
  normalized.insertionSort fun a b => PyStr.le a.1 b.1

/-- `task_arguments`. -/
def taskArguments : DeploymentTaskType → List PyStr
  | .embedding => [py "--runner", py "pooling", py "--convert", py "embed"]
  | .generate => [py "--runner", py "generate"]

/-- The arguments that the system sets. -/
def systemArguments (serviceType : DeploymentTaskType) (servedModelName : PyStr) (port : Int)
    (gpuIds : List Nat) : List PyStr :=
  [py "--host", py "0.0.0.0", py "--port", strInt port, py "--model", py "/workspace/model",
      py "--served-model-name", servedModelName] ++ taskArguments serviceType ++
    [py "--tensor-parallel-size", decimal gpuIds.length, py "--load-format", py "safetensors"]

/-- `_vllm_command`. -/
def vllmCommand (casing : Casing) (r : InferenceLaunchRequest) (gpuIds : List Nat) :
    Except StartError (List PyStr) := do
  let normalized ← normalizeArguments casing [] r.vllmArgs
  .ok (systemArguments r.serviceType r.servedModelName r.port gpuIds ++
    (sortedOptions normalized).flatMap renderOption)

/-- The part of `CommandProcessor._start` and `launch_inference` that the arguments
of a deployment decide. -/
def startCommand (casing : Casing) (gpuIds : List Nat) (e : DeploymentExecution) :
    Except StartError (List PyStr) := do
  let execution ← VLLMExecution.modelValidate e
  if execution.tensorParallelSize ≠ gpuIds.length then
    .error (.invalidWorkload (py "tensor_parallel_size 必须等于 gpu_ids 数量"))
  else
    let arguments ← mergeVllmArguments execution.simplifiedConfig execution.vllmArgs
    let request : InferenceLaunchRequest :=
      ⟨gpuIds, execution.servedModelName, execution.serviceType, execution.port.getD 8000, arguments⟩
    if request.accepted then vllmCommand casing request gpuIds else .error .invalidExecution

/-! ## The agent accepts what the control plane accepts -/

section Validators

variable {casing : Casing} {key : PyStr} {value : Json}

/-- On the scalars of a launch request the agent's check is the control plane's. -/
theorem validateVllmArgument_ok (hv : isJsonScalar value = true) :
    validateVllmArgument casing key value = .ok () ↔ (optionClass key).Accepts casing value := by
  have hnan (x : PyFloat) (hx : x.isFinite = true) : x ≠ .nan := by rintro rfl; cases hx
  unfold validateVllmArgument
  cases optionClass key with
  | cpuOffload =>
    cases value with
    | float x => simp [OptionClass.Accepts, hnan x hv, show x.isFinite = true from hv]
    | _ => simp [OptionClass.Accepts]
  | gpuMemoryUtilization =>
    cases value with
    | float x => simp [OptionClass.Accepts, show x.isFinite = true from hv]
    | _ => simp [OptionClass.Accepts]
  | blockSize =>
    cases value with
    | int n => simp only [ite_ok_error, Json.int.injEq, OptionClass.Accepts]
    | _ => simp [OptionClass.Accepts]
  | _ => cases value <;> simp [OptionClass.Accepts]

/-- A value that its option takes is a scalar of a launch request. -/
theorem OptionClass.Accepts.isJsonScalar (h : (optionClass key).Accepts casing value) :
    isJsonScalar value = true := by
  cases hc : optionClass key with
  | «enum» allowed =>
    rw [hc] at h
    cases value with
    | str s => exact PyStr.encodable_of_lower (enum_encodable _ (mem_enumArguments hc) _ h)
    | _ => cases h
  | quantization =>
    rw [hc] at h
    cases value with
    | str s => exact encodable_of_quantizationPattern h
    | _ => cases h
  | cpuOffload =>
    rw [hc] at h
    cases value with
    | int n => rfl
    | float x => exact h.1
    | _ => cases h
  | gpuMemoryUtilization =>
    rw [hc] at h
    cases value with
    | float x => exact h.1
    | _ => cases h
  | _ =>
    rw [hc] at h
    cases value with
    | bool b => rfl
    | int n => rfl
    | _ => cases h

end Validators

/-- An argument map under the normalised keys. -/
def normalizeKeys (casing : Casing) (args : List (PyStr × Json)) : List (PyStr × Json) :=
  Dict.mapKeys (normalizeKey casing) args

/-- The loop of `_vllm_command` ends if every entry passes its checks, with the
entries under their normalised keys. -/
theorem normalizeArguments_ok {casing : Casing} {acc args normalized : List (PyStr × Json)} :
    normalizeArguments casing acc args = .ok normalized ↔
      (∀ kv ∈ args, normalizeKey casing kv.1 ∈ argumentAllowlist ∧ unsafeText kv.2 = false ∧
        validateVllmArgument casing (normalizeKey casing kv.1) kv.2 = .ok ()) ∧
      normalized = Dict.update acc (normalizeKeys casing args) := by
  induction args generalizing acc with
  | nil =>
    simp only [normalizeArguments, Except.ok.injEq, List.not_mem_nil, false_implies, implies_true, true_and]
    exact eq_comm
  | cons kv args ih =>
    obtain ⟨k, v⟩ := kv
    simp only [normalizeArguments, List.mem_cons, forall_eq_or_imp]
    split
    · rename_i h; simp [h]
    split
    · rename_i h; simp [h]
    rename_i h₁ h₂
    cases hv : validateVllmArgument casing (normalizeKey casing k) v with
    | error e => simp
    | ok u =>
      have hcons : Dict.update acc (normalizeKeys casing ((k, v) :: args)) =
          Dict.update (Dict.set acc (normalizeKey casing k) v) (normalizeKeys casing args) := rfl
      simp only [ih, hcons, not_not.mp h₁, Bool.not_eq_true _ ▸ h₂, and_self, true_and]

end OpenLLMOps.Vllm
