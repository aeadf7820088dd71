import OpenLLMOps.Agent.Docker
import OpenLLMOps.Datasets.Records
import OpenLLMOps.Framework.BaseModel
import OpenLLMOps.Framework.Json.Objects

/-!
# The configuration of a training

What a training is asked for is checked by the control plane (`validateTrainingParameters`) and again by the node, which
makes the configuration of it (`buildTrainingConfig`) and writes it to a file. The container reads the file, makes
the configuration again from the parameters in it and compares (`validateTrainingConfig`).
-/

namespace OpenLLMOps.Training

open Framework
open Datasets (TrainingStage)

inductive DatasetFormat
  | cptText
  | alpaca
  | messages
  deriving DecidableEq

/-! ## Parameters -/

/-- `[A-Za-z0-9]`. -/
def isAsciiAlnum (c : Nat) : Bool := isDigit c || (65 ≤ c && c ≤ 90) || (97 ≤ c && c ≤ 122)

/-- `^[A-Za-z0-9][A-Za-z0-9._+-]{0,63}$`. -/
def isTemplate : PyStr → Bool
  | [] => false
  | c :: rest => isAsciiAlnum c && rest.length ≤ 63 && rest.all fun c => isAsciiAlnum c || c ∈ py "._+-"

/-- `TrainingHyperparameters`. -/
def trainingHyperparameters : BaseModel where
  fields :=
    [.optional "template" (matchedStr? isTemplate) matchedStr?_kept,
      .float "num_train_epochs" (.finite false 3 0) fun x => x.gtZero && x.le 100 0,
      .float "learning_rate" (.finite false 2 (-4)) fun x => x.ge 1 (-7) && x.le 1 0,
      .int "cutoff_len" 2048 128 65536,
      .int "per_device_train_batch_size" 1 1 128,
      .int "gradient_accumulation_steps" 8 1 4096,
      .int "logging_steps" 10 1 100000,
      .int "save_steps" 100 1 1000000,
      .float "warmup_ratio" (.finite false 3 (-2)) fun x => x.ge 0 0 && x.le 1 0,
      .int "lora_rank" 16 1 1024,
      .int "lora_alpha" 32 1 4096,
      .float "lora_dropout" (.finite false 5 (-2)) fun x => x.ge 0 0 && !x.ge 1 0,
      .int "freeze_trainable_layers" 2 1 256,
      .optional "max_samples" (boundedInt? 1 10000000) boundedInt?_kept,
      .int "seed" 42 0 2147483647]
  distinct := by decide

/-- `TrainingParameters` of the control plane, which declares the same fields. -/
abbrev trainingParameters : BaseModel := trainingHyperparameters

/-- `validate_training_parameters`. -/
def validateTrainingParameters (stage : TrainingStage) (algorithm : TrainingAlgorithm) (raw : Json) :
    Except PyStr trainingParameters.Instance :=
  match trainingParameters.validate raw with
  | none => .error (py "训练参数结构、类型或范围无效")
  | some parameters =>
    if stage = .cpt ∧ algorithm ≠ .lora then .error (py "继续预训练（CPT）首版仅支持 LoRA")
    else if stage = .sft ∧ parameters.get "template" = .null then .error (py "SFT 训练必须指定受支持的 template")
    else .ok parameters

/-! ## `build_training_config` -/

/-- `TrainingRequest`. -/
structure TrainingRequest where
  parameters : trainingHyperparameters.Instance
  stage : TrainingStage
  algorithm : TrainingAlgorithm
  modelPath : PyStr
  datasetDir : PyStr
  outputDir : PyStr
  datasetName : PyStr
  datasetFormat : DatasetFormat

namespace TrainingRequest

variable (r : TrainingRequest)

/-- A parameter. -/
def get (name : String) : Json := r.parameters.get name

/-- `_validate_combination`. -/
def validateCombination : Except PyStr Unit :=
  if r.stage = .cpt ∧ r.algorithm ≠ .lora then .error (py "继续预训练（CPT）仅支持 LoRA")
  else if r.stage = .cpt ∧ r.datasetFormat ≠ .cptText then .error (py "CPT 必须使用 text/content 数据集")
  else if r.stage = .sft ∧ r.datasetFormat = .cptText then .error (py "SFT 不能使用 CPT 文本格式")
  else if r.stage = .sft ∧ (r.get "template" = .null ∨ r.get "template" = .str []) then
    .error (py "SFT 必须显式选择与模型匹配的模板")
  else .ok ()

/-- The entries that every configuration has. -/
def commonEntries : List (PyStr × Json) :=
  [(py "stage", .str (if r.stage = .cpt then py "pt" else py "sft")),
    (py "do_train", .bool true),
    (py "model_name_or_path", .str r.modelPath),
    (py "dataset", .str r.datasetName),
    (py "dataset_dir", .str r.datasetDir),
    (py "output_dir", .str r.outputDir),
    (py "overwrite_cache", .bool false),
    (py "overwrite_output_dir", .bool false),
    (py "trust_remote_code", .bool false),
    (py "finetuning_type", .str (if r.algorithm = .freeze then py "freeze" else py "lora")),
    (py "cutoff_len", r.get "cutoff_len"),
    (py "preprocessing_num_workers", .int 8),
    (py "per_device_train_batch_size", r.get "per_device_train_batch_size"),
    (py "gradient_accumulation_steps", r.get "gradient_accumulation_steps"),
    (py "learning_rate", r.get "learning_rate"),
    (py "num_train_epochs", r.get "num_train_epochs"),
    (py "lr_scheduler_type", .str (py "cosine")),
    (py "warmup_ratio", r.get "warmup_ratio"),
    (py "bf16", .bool true),
    (py "ddp_timeout", .int 18000000),
    (py "logging_steps", r.get "logging_steps"),
    (py "save_steps", r.get "save_steps"),
    (py "save_total_limit", .int 5),
    (py "save_safetensors", .bool true),
    (py "plot_loss", .bool true),
    (py "report_to", .str (py "none")),
    (py "seed", r.get "seed")]

/-- The entries that a configuration has if they are set, or for its stage and algorithm. -/
def furtherEntries : List (PyStr × Json) :=
  (if r.get "max_samples" = .null then [] else [(py "max_samples", r.get "max_samples")]) ++
    (if r.stage = .sft then [(py "template", r.get "template"), (py "packing", .bool false)] else []) ++
    (if r.algorithm = .lora ∨ r.algorithm = .qlora then
      [(py "lora_target", .str (py "all")), (py "lora_rank", r.get "lora_rank"), (py "lora_alpha", r.get "lora_alpha"),
        (py "lora_dropout", r.get "lora_dropout")]
    else []) ++
    (if r.algorithm = .qlora then
      [(py "quantization_bit", .int 4), (py "quantization_method", .str (py "bitsandbytes"))]
    else []) ++
    if r.algorithm = .freeze then
      [(py "freeze_trainable_layers", r.get "freeze_trainable_layers"),
        (py "freeze_trainable_modules", .str (py "all"))]
    else []

def entries : List (PyStr × Json) := r.commonEntries ++ r.furtherEntries

end TrainingRequest

/-- `build_training_config`. -/
def buildTrainingConfig (r : TrainingRequest) : Except PyStr (List (PyStr × Json)) := do
  r.validateCombination
  .ok r.entries

/-! ## The file -/

/-- What the paths of the container and the request of the node are. -/
structure TrainingSpec where
  stage : TrainingStage
  algorithm : TrainingAlgorithm
  datasetFormat : DatasetFormat
  modelPath : PyStr
  datasetDir : PyStr
  outputPath : PyStr

/-- With the paths of the container. -/
def workspaceSpec (stage : TrainingStage) (algorithm : TrainingAlgorithm)
    (datasetFormat : DatasetFormat) : TrainingSpec where
  stage := stage
  algorithm := algorithm
  datasetFormat := datasetFormat
  modelPath := py "/workspace/model"
  datasetDir := py "/workspace/dataset"
  outputPath := py "/workspace/output"

/-- The request with these parameters. -/
def TrainingSpec.with (spec : TrainingSpec) (parameters : trainingHyperparameters.Instance) : TrainingRequest where
  parameters := parameters
  stage := spec.stage
  algorithm := spec.algorithm
  modelPath := spec.modelPath
  datasetDir := spec.datasetDir
  outputDir := spec.outputPath
  datasetName := py "openllmops_dataset"
  datasetFormat := spec.datasetFormat

/-- `TrainingRequest(..., **parameters.model_dump())`. -/
def TrainingSpec.request (spec : TrainingSpec) (parameters : trainingHyperparameters.Instance) :
    Option TrainingRequest :=
  (trainingHyperparameters.validate (.obj parameters.entries)).map spec.with

/-- Why there is no configuration. -/
inductive ConfigError
  /-- An error with this text. -/
  | refused (text : PyStr)
  /-- A `ValidationError`. -/
  | invalid
  /-- A `ValueError` of `int` or of `json.dumps`. -/
  | value
  /-- The file differs from what is derived, and has these entries more. -/
  | differs (unexpected : List PyStr)
  deriving DecidableEq

/-- What `_materialize_training_files` writes for the `training_config` of a command. -/
def materializeTrainingConfig (spec : TrainingSpec) (raw : Json) : Except ConfigError Bytes := do
  let parameters ← (trainingHyperparameters.validate raw).elim (.error .invalid) .ok
  let request ← (spec.request parameters).elim (.error .invalid) .ok
  let config ← (buildTrainingConfig request).mapError .refused
  ((dumps .canonical 0 (.obj config)).bind PyStr.encode).elim (.error .value) .ok

def maxConfigBytes : Nat := 1024 * 1024

/-- A file that can be opened. -/
structure ConfigFile where
  content : Bytes
  /-- It is a regular file and no link. -/
  regular : Bool
  sizeBytes : Nat

/-- A file that was written so. -/
def writtenFile (content : Bytes) : ConfigFile := ⟨content, true, content.length⟩

/-- `_load_json_config`; `none` is a file that cannot be read. -/
def loadJsonConfig (float : PyStr → PyFloat) (file : Option ConfigFile) : Except ConfigError (List (PyStr × Json)) :=
  match file with
  | none => .error (.refused (py "训练配置不是有效的 UTF-8 JSON"))
  | some file =>
    if !file.regular || file.sizeBytes = 0 || maxConfigBytes < file.sizeBytes then
      .error (.refused (py "训练配置必须是有界的非软链接普通文件"))
    else
      let raw := file.content.take (maxConfigBytes + 1)
      match loads (.strict float) raw with
      | .error .digits => .error .value
      | .error (.constant text) => .error (.refused (py "训练配置不允许非有限数值：" ++ text))
      | .error (.duplicate key) => .error (.refused (py "训练配置包含重复字段：" ++ key))
      | .error _ => .error (.refused (py "训练配置不是有效的 UTF-8 JSON"))
      | .ok (.obj kvs) =>
        if maxConfigBytes < raw.length then .error (.refused (py "训练配置必须是有界 JSON 对象")) else .ok kvs
      | .ok _ => .error (.refused (py "训练配置必须是有界 JSON 对象"))

/-- `validate_training_config`. -/
def validateTrainingConfig (float : PyStr → PyFloat) (spec : TrainingSpec) (file : Option ConfigFile) :
    Except ConfigError (List (PyStr × Json)) := do
  let actual ← loadJsonConfig float file
  let raw := trainingHyperparameters.select actual
  let parameters ← (trainingHyperparameters.validate (.obj raw)).elim (.error .invalid) .ok
  let request ← (spec.request parameters).elim (.error .invalid) .ok
  let expected ← (buildTrainingConfig request).mapError fun text => .refused (py "训练配置未通过严格白名单：" ++ text)
  if (Json.obj actual).eqv (.obj expected) then .ok actual
  else .error (.differs (((actual.map Prod.fst).filter (· ∉ expected.map Prod.fst)).insertionSort (· ≤ ·)))

/-! ## What a configuration gives -/

/-- The parameters that no entry of the configuration is for. -/
def unusedParameters (stage : TrainingStage) (algorithm : TrainingAlgorithm) : List String :=
  (if stage = .cpt then ["template"] else []) ++
    if algorithm = .freeze then ["lora_rank", "lora_alpha", "lora_dropout"] else ["freeze_trainable_layers"]

namespace TrainingRequest

variable (r : TrainingRequest)

/-- The parameters that every configuration has an entry for. -/
def commonNames : List String :=
  ["num_train_epochs", "learning_rate", "cutoff_len", "per_device_train_batch_size", "gradient_accumulation_steps",
    "logging_steps", "save_steps", "warmup_ratio", "seed"]

def loraNames : List String := ["lora_rank", "lora_alpha", "lora_dropout"]

theorem get?_common {name : String} (h : name ∈ commonNames) : Json.get? r.entries (py name) = some (r.get name) := by
  simp only [commonNames, List.mem_cons, List.not_mem_nil, or_false] at h
  rcases h with rfl | rfl | rfl | rfl | rfl | rfl | rfl | rfl | rfl <;> rfl

theorem get?_maxSamples : Json.get? r.entries (py "max_samples") =
    if r.get "max_samples" = .null then none else some (r.get "max_samples") := by
  show Json.get? r.furtherEntries _ = _
  unfold furtherEntries
  obtain ⟨p, stage, algorithm, _, _, _, _, _⟩ := r
  split
  · cases stage <;> cases algorithm <;> rfl
  · rfl

theorem get?_template : Json.get? r.entries (py "template") = if r.stage =
    .sft then some (r.get "template") else none := by
  show Json.get? r.furtherEntries _ = _
  unfold furtherEntries
  obtain ⟨p, stage, algorithm, _, _, _, _, _⟩ := r
  split
  · cases stage <;> cases algorithm <;> rfl
  · cases stage <;> cases algorithm <;> rfl

theorem get?_lora {name : String} (h : name ∈ loraNames) :
    Json.get? r.entries (py name) = if r.algorithm = .freeze then none else some (r.get name) := by
  obtain ⟨p, stage, algorithm, _, _, _, _, _⟩ := r
  simp only [loraNames, List.mem_cons, List.not_mem_nil, or_false] at h
  rcases h with rfl | rfl | rfl
  all_goals
    show Json.get? (furtherEntries _) _ = _
    unfold furtherEntries
    split <;> cases stage <;> cases algorithm <;> rfl

theorem get?_freeze : Json.get? r.entries (py "freeze_trainable_layers") =
    if r.algorithm = .freeze then some (r.get "freeze_trainable_layers") else none := by
  show Json.get? r.furtherEntries _ = _
  unfold furtherEntries
  obtain ⟨p, stage, algorithm, _, _, _, _, _⟩ := r
  split <;> cases stage <;> cases algorithm <;> rfl

/-- The parameters that matter for the stage and the algorithm. -/
def used : trainingHyperparameters.Instance := r.parameters.without (unusedParameters r.stage r.algorithm)

theorem mem_unused {stage : TrainingStage} {algorithm : TrainingAlgorithm} {name : String} :
    name ∈ unusedParameters stage algorithm ↔ name = "template" ∧ stage = .cpt ∨
      name ∈ loraNames ∧ algorithm = .freeze ∨ name = "freeze_trainable_layers" ∧ algorithm ≠ .freeze := by
  unfold unusedParameters loraNames
  cases stage <;> cases algorithm <;> simp

theorem field_name {f : Field} (hf : f ∈ trainingHyperparameters.fields) :
    f.name ∈ commonNames ∨ f.name ∈ loraNames ∨ f.name = "freeze_trainable_layers" ∨
      (f.name = "template" ∨ f.name = "max_samples") ∧ f.default = .null := by
  have hall : ∀ f ∈ trainingHyperparameters.fields, f.name ∈ commonNames ∨ f.name ∈ loraNames ∨
      f.name = "freeze_trainable_layers" ∨ (f.name = "template" ∨ f.name = "max_samples") ∧ f.default = .null := by
    decide
  exact hall f hf

theorem get_used {f : Field} (hf : f ∈ trainingHyperparameters.fields) :
    r.used.get f.name = if f.name ∈ unusedParameters r.stage r.algorithm then f.default else r.get f.name :=
  r.parameters.get_without _ hf

theorem get_used_of_not_mem {name : String} (hname : name ∈ trainingHyperparameters.names)
    (hused : name ∉ unusedParameters r.stage r.algorithm) : r.used.get name = r.get name := by
  obtain ⟨f, hf, rfl⟩ := List.mem_map.mp hname
  rw [r.get_used hf, if_neg hused]

theorem common_used {name : String} (h : name ∈ commonNames) : name ∉ unusedParameters r.stage r.algorithm := by
  have hother : ∀ name ∈ commonNames, name ≠ "template" ∧ name ∉ loraNames ∧
    name ≠ "freeze_trainable_layers" := by decide
  obtain ⟨htemplate, hlora, hfreeze⟩ := hother name h
  rw [mem_unused]
  rintro (⟨h, -⟩ | ⟨h, -⟩ | ⟨h, -⟩) <;> contradiction

/-- What the configuration gives are the parameters that matter. -/
theorem given_entries {f : Field} (hf : f ∈ trainingHyperparameters.fields) : r.used.Given r.entries f := by
  rw [BaseModel.Instance.Given, r.get_used hf]
  rcases field_name hf with hname | hname | hname | ⟨hname | hname, hdefault⟩
  · rw [r.get?_common hname, if_neg (r.common_used hname)]
    exact .inl rfl
  · rw [r.get?_lora hname]
    by_cases hfreeze : r.algorithm = .freeze
    · rw [if_pos hfreeze, if_pos (mem_unused.mpr (.inr (.inl ⟨hname, hfreeze⟩)))]
      exact .inr ⟨rfl, rfl⟩
    · have hused : f.name ∉ unusedParameters r.stage r.algorithm := by
        rw [mem_unused]
        rintro (⟨h, -⟩ | ⟨-, h⟩ | ⟨h, -⟩)
        · exact absurd (h ▸ hname) (by decide)
        · exact hfreeze h
        · exact absurd (h ▸ hname) (by decide)
      rw [if_neg hfreeze, if_neg hused]
      exact .inl rfl
  · rw [hname, r.get?_freeze]
    by_cases hfreeze : r.algorithm = .freeze
    · have hused : "freeze_trainable_layers" ∉ unusedParameters r.stage r.algorithm := by
        rw [mem_unused]
        rintro (⟨h, -⟩ | ⟨h, -⟩ | ⟨-, h⟩)
        · exact absurd h (by decide)
        · exact absurd h (by decide)
        · exact h hfreeze
      rw [if_pos hfreeze, if_neg hused]
      exact .inl rfl
    · rw [if_neg hfreeze, if_pos (mem_unused.mpr (.inr (.inr ⟨rfl, hfreeze⟩)))]
      exact .inr ⟨rfl, rfl⟩
  · rw [hname, hdefault, r.get?_template]
    by_cases hstage : r.stage = .sft
    · have hused : "template" ∉ unusedParameters r.stage r.algorithm := by
        rw [mem_unused, hstage]
        rintro (⟨-, h⟩ | ⟨h, -⟩ | ⟨h, -⟩)
        · cases h
        · exact absurd h (by decide)
        · exact absurd h (by decide)
      rw [if_pos hstage, if_neg hused]
      exact .inl rfl
    · have hcpt : r.stage = .cpt := by
        cases hs : r.stage with
        | cpt => rfl
        | sft => exact absurd hs hstage
      rw [if_neg hstage, if_pos (mem_unused.mpr (.inl ⟨rfl, hcpt⟩))]
      exact .inr ⟨rfl, rfl⟩
  · have hused : "max_samples" ∉ unusedParameters r.stage r.algorithm := by
      rw [mem_unused]
      rintro (⟨h, -⟩ | ⟨h, -⟩ | ⟨h, -⟩) <;> exact absurd h (by decide)
    rw [hname, hdefault, r.get?_maxSamples, if_neg hused]
    by_cases hnull : r.get "max_samples" = .null
    · rw [if_pos hnull]
      exact .inr ⟨rfl, hnull⟩
    · rw [if_neg hnull]
      exact .inl rfl

/-- The configuration depends on the parameters that matter. -/
theorem entries_congr {p : trainingHyperparameters.Instance}
    (h : ∀ name ∈ trainingHyperparameters.names, name ∉ unusedParameters r.stage r.algorithm →
      r.get name = p.get name) :
    r.entries = entries { r with parameters := p } := by
  have hcommon : ∀ name ∈ commonNames, r.get name = get { r with parameters := p } name :=
    fun name hname => h name ((by decide : commonNames ⊆ trainingHyperparameters.names) hname) (r.common_used hname)
  have hlora : r.algorithm ≠ .freeze → ∀ name ∈ loraNames, r.get name = get { r with parameters := p } name := by
    refine fun halgorithm name hname => h name ((by decide : loraNames ⊆ trainingHyperparameters.names) hname) ?_
    rw [mem_unused]
    rintro (⟨h, -⟩ | ⟨-, h⟩ | ⟨h, -⟩)
    · exact absurd (h ▸ hname) (by decide)
    · exact halgorithm h
    · exact absurd (h ▸ hname) (by decide)
  have hmax : r.get "max_samples" = get { r with parameters := p } "max_samples" := by
    refine h _ (by decide) ?_
    rw [mem_unused]
    rintro (⟨h, -⟩ | ⟨h, -⟩ | ⟨h, -⟩) <;> exact absurd h (by decide)
  have hfirst : r.commonEntries = commonEntries { r with parameters := p } := by
    unfold commonEntries
    rw [hcommon "cutoff_len" (by decide), hcommon "per_device_train_batch_size" (by decide),
      hcommon "gradient_accumulation_steps" (by decide), hcommon "learning_rate" (by decide),
      hcommon "num_train_epochs" (by decide), hcommon "warmup_ratio" (by decide), hcommon "logging_steps" (by decide),
      hcommon "save_steps" (by decide), hcommon "seed" (by decide)]
  have hfurther : r.furtherEntries = furtherEntries { r with parameters := p } := by
    unfold furtherEntries
    rw [hmax]
    congr 1
    · congr 1
      congr 1
      · congr 1
        refine ite_congr rfl (fun hstage => ?_) fun _ => rfl
        rw [h "template" (by decide) ?_]
        · rfl
        rw [mem_unused, hstage]
        rintro (⟨-, h⟩ | ⟨h, -⟩ | ⟨h, -⟩)
        · cases h
        · exact absurd h (by decide)
        · exact absurd h (by decide)
      · refine ite_congr rfl (fun halgorithm => ?_) fun _ => rfl
        have hno : r.algorithm ≠ .freeze := by
          rcases halgorithm with h | h <;> (rw [h]; decide)
        rw [hlora hno "lora_rank" (by decide), hlora hno "lora_alpha" (by decide), hlora hno "lora_dropout" (by decide)]
    · refine ite_congr rfl (fun halgorithm => ?_) fun _ => rfl
      rw [h "freeze_trainable_layers" (by decide) ?_]
      · rfl
      rw [mem_unused]
      rintro (⟨h, -⟩ | ⟨h, -⟩ | ⟨-, h⟩)
      · exact absurd h (by decide)
      · exact absurd h (by decide)
      · exact h halgorithm
  rw [entries, hfirst, hfurther]
  rfl

end TrainingRequest

end OpenLLMOps.Training
