import OpenLLMOps.ControlPlane.Entities
import OpenLLMOps.Vllm.Options

/-!
# The control plane's validation of a deployment

`app/schemas/vllm.py` and the `DeploymentCreate` schema of
`app/schemas/resources.py`. A payload is the parsed model; `validate` is its
`mode="after"` validator, and `accepted` adds the field constraints of the
options. Errors are `ValueError` texts.
-/

namespace OpenLLMOps.Vllm

open Framework

/-- `_validate_value`. `math.isfinite` of an integer beyond the range of a double
raises `OverflowError`; either way such a number is not accepted. -/
def validateValue (casing : Casing) (key : PyStr) (value : Json) : Except PyStr Unit :=
  match optionClass key with
  | .boolean =>
    match value with
    | .bool _ => .ok ()
    | _ => .error (py "vLLM 参数 " ++ key ++ py " 必须是布尔值")
  | .positiveInteger limit =>
    match value with
    | .int n =>
      if n ≤ 0 then .error (py "vLLM 参数 " ++ key ++ py " 必须是正整数")
      else if n > limit then .error (py "vLLM 参数 " ++ key ++ py " 超出安全上限 " ++ strInt limit)
      else .ok ()
    | _ => .error (py "vLLM 参数 " ++ key ++ py " 必须是正整数")
  | .nonnegativeInteger limit =>
    match value with
    | .int n =>
      if n < 0 then .error (py "vLLM 参数 " ++ key ++ py " 必须是非负整数")
      else if n > limit then .error (py "vLLM 参数 " ++ key ++ py " 超出安全上限 " ++ strInt limit)
      else .ok ()
    | _ => .error (py "vLLM 参数 " ++ key ++ py " 必须是非负整数")
  | .cpuOffload =>
    match value with
    | .int n => if 0 ≤ n ∧ n ≤ 16 then .ok () else .error (py "vLLM 参数 cpu-offload-gb 必须位于 0..16")
    | .float x =>
      if x.isFinite ∧ x.ge 0 0 ∧ x.le 16 0 then .ok () else .error (py "vLLM 参数 cpu-offload-gb 必须位于 0..16")
    | _ => .error (py "vLLM 参数 cpu-offload-gb 必须位于 0..16")
  | .blockSize =>
    if value = .int 8 ∨ value = .int 16 ∨ value = .int 32 then .ok ()
    else .error (py "vLLM 参数 block-size 仅允许 8、16 或 32")
  | .gpuMemoryUtilization =>
    -- no integer lies in 0.1..0.98
    match value with
    | .float x =>
      if x.isFinite ∧ x.ge 1 (-1) ∧ x.le 98 (-2) then .ok ()
      else .error (py "vLLM 参数 gpu-memory-utilization 必须位于 0.1..0.98")
    | _ => .error (py "vLLM 参数 gpu-memory-utilization 必须位于 0.1..0.98")
  | .pipelineParallelSize =>
    if value = .int 1 then .ok () else .error (py "首版单机调度固定 pipeline-parallel-size=1")
  | .enum allowed =>
    match value with
    | .str s =>
      if s.lower casing ∈ allowed then .ok ()
      else .error (py "vLLM 参数 " ++ key ++ py " 仅允许：" ++ (py ", ").intercalate allowed)
    | _ => .error (py "vLLM 参数 " ++ key ++ py " 仅允许：" ++ (py ", ").intercalate allowed)
  | .quantization =>
    match value with
    | .str s =>
      if quantizationPattern s then .ok () else .error (py "vLLM 参数 quantization 的值格式不安全")
    | _ => .error (py "vLLM 参数 quantization 的值格式不安全")
  | .unknown => .error (py "vLLM 参数 " ++ key ++ py " 缺少类型约束")

@[simp] theorem ite_error_ok {ε : Type} {p : Prop} [Decidable p] {e : ε} {x : Except ε Unit} :
    (if p then .error e else x) = .ok () ↔ ¬ p ∧ x = .ok () := by
  split <;> simp [*]

@[simp] theorem ite_ok_error {ε : Type} {p : Prop} [Decidable p] {e : ε} :
    (if p then .ok () else .error e : Except ε Unit) = .ok () ↔ p := by
  split <;> simp [*]

theorem validateValue_ok {casing : Casing} {key : PyStr} {value : Json} :
    validateValue casing key value = .ok () ↔ (optionClass key).Accepts casing value := by
  unfold validateValue
  cases optionClass key with
  | blockSize =>
    cases value with
    | int n => simp only [ite_ok_error, Json.int.injEq, OptionClass.Accepts]
    | _ => simp [OptionClass.Accepts]
  | _ => cases value <;> simp [OptionClass.Accepts]

/-- The loop of `validate_vllm_arguments`; `seen` is `normalized_keys`. -/
def validateEntries (casing : Casing) : List PyStr → List (PyStr × Json) → Except PyStr Unit
  | _, [] => .ok ()
  | seen, (rawKey, value) :: rest =>
    let key := normalizeKey casing rawKey
    if key ∈ seen then .error (py "vLLM 参数规范化后重复：" ++ key)
    else if key ∉ argumentAllowlist then .error (py "不允许的 vLLM 参数：" ++ rawKey)
    else if unsafeText value then .error (py "vLLM 参数 " ++ rawKey ++ py " 包含非法字符或过长")
    else match validateValue casing key value with
      | .error e => .error e
      | .ok () => validateEntries casing (key :: seen) rest

/-- `validate_vllm_arguments`. -/
def validateVllmArguments (casing : Casing) (arguments : List (PyStr × Json)) : Except PyStr Unit :=
  if 128 < arguments.length then .error (py "vLLM 参数数量超过安全上限")
  else validateEntries casing [] arguments

/-- What acceptance means entry by entry: the normalised keys are distinct and
allowed, and every value passes the check of its option. -/
theorem validateEntries_ok {casing : Casing} {seen : List PyStr} {args : List (PyStr × Json)} :
    validateEntries casing seen args = .ok () ↔
      (args.map fun kv => normalizeKey casing kv.1).Nodup ∧
      ∀ kv ∈ args, normalizeKey casing kv.1 ∉ seen ∧ normalizeKey casing kv.1 ∈ argumentAllowlist ∧
        unsafeText kv.2 = false ∧ validateValue casing (normalizeKey casing kv.1) kv.2 = .ok () := by
  induction args generalizing seen with
  | nil => simp [validateEntries]
  | cons kv args ih =>
    obtain ⟨k, v⟩ := kv
    simp only [validateEntries, List.map_cons, List.nodup_cons, List.mem_map, List.mem_cons, forall_eq_or_imp]
    split
    · rename_i h; simp [h]
    split
    · rename_i h; simp [h]
    split
    · rename_i h; simp [h]
    rename_i h₁ h₂ h₃
    cases hv : validateValue casing (normalizeKey casing k) v with
    | error e => simp
    | ok u =>
      simp only [ih, List.mem_cons, not_or]
      constructor
      · rintro ⟨hn, hall⟩
        exact ⟨⟨fun ⟨kv, hkv, e⟩ => (hall kv hkv).1.1 e, hn⟩, ⟨h₁, by simpa using h₂, by simpa using h₃, trivial⟩,
          fun kv hkv => ⟨(hall kv hkv).1.2, (hall kv hkv).2⟩⟩
      · rintro ⟨⟨hk, hn⟩, -, hall⟩
        exact ⟨hn, fun kv hkv => ⟨⟨fun e => hk ⟨kv, hkv, e⟩, (hall kv hkv).1⟩, (hall kv hkv).2⟩⟩

/-! ## `DeploymentCreate` -/

inductive SimplifiedDtype
  | auto
  | float16
  | bfloat16
  deriving DecidableEq

def SimplifiedDtype.value : SimplifiedDtype → PyStr
  | .auto => py "auto"
  | .float16 => py "float16"
  | .bfloat16 => py "bfloat16"

/-- `DeploymentSimplifiedConfig`; an unset option is `none`. -/
structure DeploymentSimplifiedConfig where
  maxModelLen : Option Int
  gpuMemoryUtilization : Option PyFloat
  dtype : Option SimplifiedDtype

/-- The field constraints of `DeploymentSimplifiedConfig`. -/
def DeploymentSimplifiedConfig.accepted (c : DeploymentSimplifiedConfig) : Bool :=
  (c.maxModelLen.all fun n => 1024 ≤ n && n ≤ 131072) &&
    c.gpuMemoryUtilization.all fun x => x.isFinite && x.ge 1 (-1) && x.le 98 (-2)

/-- `model_dump()`: an unset option is dumped as `None`. -/
def DeploymentSimplifiedConfig.modelDump (c : DeploymentSimplifiedConfig) : List (PyStr × Json) :=
  [(py "max_model_len", c.maxModelLen.elim .null .int),
    (py "gpu_memory_utilization", c.gpuMemoryUtilization.elim .null .float),
    (py "dtype", c.dtype.elim .null fun d => .str d.value)]

/-- `SYSTEM_MANAGED_VLLM_ARGS`. -/
def systemManagedVllmArgs : List PyStr :=
  [py "api_key", py "host", py "model", py "pipeline_parallel_size", py "port", py "served_model_name",
    py "tensor_parallel_size", py "trust_remote_code"]

/-- The pattern of `served_model_name`: an alphanumeric character, then at most 127
alphanumeric characters, dots, underscores, colons, slashes and hyphens. -/
def servedModelNamePattern : PyStr → Bool
  | [] => false
  | c :: cs =>
    let alnum := fun c => (65 ≤ c && c ≤ 90) || (97 ≤ c && c ≤ 122) || isDigit c
    alnum c && cs.length ≤ 127 && cs.all fun c => alnum c || c = 46 || c = 95 || c = 58 || c = 47 || c = 45

/-- A parsed `DeploymentCreate`. -/
structure DeploymentCreate where
  name : PyStr
  servedModelName : PyStr
  modelAssetId : Uuid
  taskType : DeploymentTaskType
  gpuIds : List Nat
  tensorParallelSize : Nat
  simplifiedConfig : DeploymentSimplifiedConfig
  vllmArgs : List (PyStr × Json)

/-- The checks of `vllm_args` that creation and update share: no system-managed option,
then `validate_vllm_arguments`. -/
def validateDetailArgs (casing : Casing) (vllmArgs : List (PyStr × Json)) : Except PyStr Unit :=
  let blocked := systemManagedVllmArgs.filter fun s =>
    s ∈ vllmArgs.map fun kv => PyStr.replaceChar 45 95 (kv.1.dropWhile (· = 45))
  if blocked ≠ [] then
    .error (py "以下 vLLM 参数由系统管理，不能覆盖：" ++ (py ", ").intercalate blocked)
  else validateVllmArguments casing vllmArgs

/-- `validate_gpu_and_vllm_config`. -/
def DeploymentCreate.validate (casing : Casing) (p : DeploymentCreate) : Except PyStr Unit :=
  if ¬ p.gpuIds.Nodup then .error (py "GPU 编号必须是互不重复的非负整数")
  else if p.tensorParallelSize ≠ p.gpuIds.length then
    .error (py "tensor_parallel_size 必须等于所选 GPU 数量")
  else validateDetailArgs casing p.vllmArgs

/-- The payload passes the field constraints of `DeploymentCreate` and its validator.
`str` fields and keys take no lone surrogates. -/
def DeploymentCreate.accepted (casing : Casing) (p : DeploymentCreate) : Bool :=
  1 ≤ p.name.length && p.name.length ≤ 128 && p.name.encodable && servedModelNamePattern p.servedModelName &&
    1 ≤ p.gpuIds.length && 1 ≤ p.tensorParallelSize && p.tensorParallelSize ≤ 32 &&
    p.simplifiedConfig.accepted && (p.vllmArgs.all fun kv => kv.1.encodable) && (p.validate casing).isOk

/-- A payload that `DeploymentCreate` accepts. -/
structure AcceptedDeployment (casing : Casing) extends DeploymentCreate where
  accepted : toDeploymentCreate.accepted casing = true

/-- A parsed `DeploymentUpdate`: a field that the client left out is `none`, a field given
as null is `some none`. -/
structure DeploymentUpdate where
  name : Option (Option PyStr)
  gpuIds : Option (Option (List Nat))
  tensorParallelSize : Option (Option Nat)
  /-- The configuration and the names of the fields that the client set in it. -/
  simplifiedConfig : Option (Option (DeploymentSimplifiedConfig × List PyStr))
  vllmArgs : Option (Option (List (PyStr × Json)))

/-- `validate_detail_args`. -/
def DeploymentUpdate.validate (casing : Casing) (p : DeploymentUpdate) : Except PyStr Unit :=
  if ¬ p.gpuIds.join.all (fun ids => ids.Nodup) then .error (py "GPU 编号必须是互不重复的非负整数")
  else if p.gpuIds.join.any fun ids => p.tensorParallelSize.join.any (· ≠ ids.length) then
    .error (py "tensor_parallel_size 必须等于所选 GPU 数量")
  else match p.vllmArgs.join with
  | none => .ok ()
  | some args => validateDetailArgs casing args

/-- The payload passes the field constraints of `DeploymentUpdate` and its validator. -/
def DeploymentUpdate.accepted (casing : Casing) (p : DeploymentUpdate) : Bool :=
  (p.name.join.all fun s => 1 ≤ s.length && s.length ≤ 128 && s.encodable) &&
    (p.gpuIds.join.all fun ids => 1 ≤ ids.length) &&
    (p.tensorParallelSize.join.all fun n => 1 ≤ n && n ≤ 32) &&
    (p.simplifiedConfig.join.all fun c => c.1.accepted) &&
    (p.vllmArgs.join.all fun args => args.all fun kv => kv.1.encodable) && (p.validate casing).isOk

/-- A payload that `DeploymentUpdate` accepts. -/
structure AcceptedUpdate (casing : Casing) extends DeploymentUpdate where
  accepted : toDeploymentUpdate.accepted casing = true

/-- The row that `create_deployment` adds. -/
def DeploymentCreate.row (p : DeploymentCreate) (now : Time) : Deployment where
  name := p.name
  servedModelName := p.servedModelName
  modelAssetId := p.modelAssetId
  taskType := p.taskType
  desiredState := .running
  actualState := .queued
  gpuIds := p.gpuIds
  tensorParallelSize := p.tensorParallelSize
  port := none
  internalUrl := none
  simplifiedConfig := .obj p.simplifiedConfig.modelDump
  vllmArgs := .obj p.vllmArgs
  healthStatus := none
  startedAt := none
  errorMessage := none
  queuedAt := some now
  createdAt := now
  stateVersion := 1
  runtimeGeneration := 0

/-- The execution of a deployment's START command. -/
structure DeploymentExecution where
  serviceType : DeploymentTaskType
  modelPath : PyStr
  servedModelName : PyStr
  port : Option Int
  tensorParallelSize : Nat
  simplifiedConfig : Json
  vllmArgs : Json
  deriving DecidableEq

/-- `_build_execution` of a deployment, with `localPath` the path of its model asset. -/
def buildExecution (localPath : PyStr) (row : Deployment) : DeploymentExecution where
  serviceType := row.taskType
  modelPath := localPath
  servedModelName := row.servedModelName
  port := row.port
  tensorParallelSize := row.tensorParallelSize
  simplifiedConfig := row.simplifiedConfig
  vllmArgs := row.vllmArgs

end OpenLLMOps.Vllm
