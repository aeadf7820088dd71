import OpenLLMOps.Framework.Dict
import OpenLLMOps.Framework.PyNumber

/-!
# vLLM options

The option tables that `app/schemas/vllm.py` and the agent's `docker_runner.py`
both hold, and the spelling rule they share: `normalizeKey` is
`raw_key.strip().lower().replace("_", "-")`. A value of an argument map is any
JSON value.

`optionClass` is the order in which both validators look the option up.
-/

namespace OpenLLMOps.Vllm

open Framework

/-- `VLLM_ARGUMENT_ALLOWLIST`. -/
def argumentAllowlist : List PyStr :=
  [py "block-size", py "cpu-offload-gb", py "disable-custom-all-reduce", py "disable-log-stats",
    py "distributed-executor-backend", py "dtype", py "enable-chunked-prefill", py "enable-prefix-caching",
    py "enforce-eager", py "gpu-memory-utilization", py "kv-cache-dtype", py "max-logprobs", py "max-model-len",
    py "max-num-batched-tokens", py "max-num-seqs", py "pipeline-parallel-size", py "quantization", py "seed",
    py "tokenizer-mode"]

/-- `BOOLEAN_ARGUMENTS`. -/
def booleanArguments : List PyStr :=
  [py "disable-custom-all-reduce", py "disable-log-stats", py "enable-chunked-prefill",
    py "enable-prefix-caching", py "enforce-eager"]

/-- `POSITIVE_INTEGER_LIMITS`. -/
def positiveIntegerLimits : List (PyStr × Int) :=
  [(py "max-model-len", 131072), (py "max-num-batched-tokens", 65536), (py "max-num-seqs", 1024)]

/-- `NONNEGATIVE_INTEGER_LIMITS`. -/
def nonnegativeIntegerLimits : List (PyStr × Int) := [(py "max-logprobs", 100), (py "seed", 2 ^ 32 - 1)]

/-- `ENUM_ARGUMENTS`, with the values sorted as the messages list them. -/
def enumArguments : List (PyStr × List PyStr) :=
  [(py "distributed-executor-backend", [py "mp"]),
    (py "dtype", [py "auto", py "bfloat16", py "float", py "float16", py "float32", py "half"]),
    (py "kv-cache-dtype", [py "auto", py "fp8", py "fp8_e4m3", py "fp8_e5m2"]),
    (py "tokenizer-mode", [py "auto", py "mistral", py "slow"])]

/-- `raw_key.strip().lower().replace("_", "-")`. -/
def normalizeKey (casing : Casing) (key : PyStr) : PyStr :=
  ((PyStr.strip key).lower casing).replaceChar 95 45

/-- `re.fullmatch(r"[A-Za-z0-9_.-]{1,64}", value)`. -/
def quantizationPattern (value : PyStr) : Bool :=
  1 ≤ value.length && value.length ≤ 64 &&
    value.all fun c => (65 ≤ c && c ≤ 90) || (97 ≤ c && c ≤ 122) || isDigit c || c = 95 || c = 46 || c = 45

/-- The check on strings that both validators make before the option's own. -/
def unsafeText : Json → Bool
  | .str s => 2048 < s.length || s.any (· < 32)
  | _ => false

/-- How an option's value is checked. -/
inductive OptionClass
  | boolean
  | positiveInteger (limit : Int)
  | nonnegativeInteger (limit : Int)
  | cpuOffload
  | blockSize
  | gpuMemoryUtilization
  | pipelineParallelSize
  | enum (allowed : List PyStr)
  | quantization
  | unknown
  deriving DecidableEq

/-- The first check that names the option. -/
def optionClass (key : PyStr) : OptionClass :=
  if key ∈ booleanArguments then .boolean
  else match Dict.get? positiveIntegerLimits key with
  | some limit => .positiveInteger limit
  | none => match Dict.get? nonnegativeIntegerLimits key with
    | some limit => .nonnegativeInteger limit
    | none =>
      if key = py "cpu-offload-gb" then .cpuOffload
      else if key = py "block-size" then .blockSize
      else if key = py "gpu-memory-utilization" then .gpuMemoryUtilization
      else if key = py "pipeline-parallel-size" then .pipelineParallelSize
      else match Dict.get? enumArguments key with
      | some allowed => .enum allowed
      | none => if key = py "quantization" then .quantization else .unknown

/-- The values of a class of options: the common purpose of the two validators. -/
def OptionClass.Accepts (casing : Casing) : OptionClass → Json → Prop
  | .boolean, .bool _ => True
  | .positiveInteger limit, .int n => 0 < n ∧ n ≤ limit
  | .nonnegativeInteger limit, .int n => 0 ≤ n ∧ n ≤ limit
  | .cpuOffload, .int n => 0 ≤ n ∧ n ≤ 16
  | .cpuOffload, .float x => x.isFinite ∧ x.ge 0 0 ∧ x.le 16 0
  | .blockSize, .int n => n = 8 ∨ n = 16 ∨ n = 32
  | .gpuMemoryUtilization, .float x => x.isFinite ∧ x.ge 1 (-1) ∧ x.le 98 (-2)
  | .pipelineParallelSize, .int n => n = 1
  | .enum allowed, .str s => s.lower casing ∈ allowed
  | .quantization, .str s => quantizationPattern s
  | _, _ => False

/-- The values of an enumerated option are those of its table entry. -/
theorem mem_enumArguments {key : PyStr} {allowed : List PyStr} (h : optionClass key = .enum allowed) :
    (key, allowed) ∈ enumArguments := by
  unfold optionClass at h
  repeat' split at h
  all_goals cases h
  exact Dict.mem_of_get? (by assumption)

theorem eq_quantization {key : PyStr} (h : optionClass key = .quantization) : key = py "quantization" := by
  unfold optionClass at h
  repeat' split at h
  all_goals first
    | assumption
    | cases h

theorem enum_encodable : ∀ kv ∈ enumArguments, ∀ s ∈ kv.2, s.encodable = true := by decide

theorem encodable_of_quantizationPattern {s : PyStr} (h : quantizationPattern s = true) : s.encodable = true := by
  simp only [quantizationPattern, Bool.and_eq_true, List.all_eq_true, PyStr.encodable, isDigit] at h ⊢
  intro c hc
  have := h.2 c hc
  simp only [Bool.or_eq_true, Bool.and_eq_true, decide_eq_true_eq, Bool.not_eq_true', PyStr.isSurrogate,
    Bool.and_eq_false_iff, decide_eq_false_iff_not] at this ⊢
  omega

end OpenLLMOps.Vllm
